import Mathlib.Logic.Function.Iterate
import GipMultiplayer.Ledger
import GipMultiplayer.VoiceClient
import GipMultiplayer.VoiceRouting

/-!
# Router and clients together

The voice system as one transition system: the router, the control calls that
are between their two locked sections, and for every connection a client with
the controls on their way to it.  Controls arrive in the order they were sent.
A downlink is delivered at any time after it was handed out, any number of
times or never; an uplink likewise.  A connection of the set `honest` only
sends what its client popped; any other may send anything.

The history of each connection's memberships is kept on the side: the `n`-th
change of a peer's stored state carries the `n`-th generation.

* `Net.Inv` — the generations in the router, in controls on their way, at the
  clients and in relayed packets all name memberships of that history;
* `Net.step_inv`, `Net.reached_inv` — every step keeps it.
-/

namespace Voice

/-! ## Generations as stamps -/

/-- The generation of a peer after `n` changes of its stored state. -/
def generationAfter (n : Nat) : UInt32 := nextGeneration^[n] 0

@[simp] theorem generationAfter_zero : generationAfter 0 = 0 := rfl

theorem generationAfter_succ (n : Nat) :
    generationAfter (n + 1) = nextGeneration (generationAfter n) :=
  Function.iterate_succ_apply' nextGeneration n 0

/-- Before the wrap the generation is the number of changes. -/
theorem generationAfter_toNat {n : Nat} (h : n < 2 ^ 32) : (generationAfter n).toNat = n := by
  induction n with
  | zero => rfl
  | succ n ih =>
      have hn := ih (by omega)
      have hsucc : (generationAfter n + 1).toNat = n + 1 := by
        rw [UInt32.toNat_add, hn]
        exact Nat.mod_eq_of_lt h
      have hne : generationAfter n + 1 ≠ 0 := by
        intro hzero
        simp [hzero] at hsucc
      rw [generationAfter_succ, nextGeneration]
      simp only [if_neg hne, hsucc]

/-- Generations do not repeat before the wrap. -/
theorem generationAfter_injective {n : Nat} (h : n < 2 ^ 32 - 1) :
    Ledger.InjectiveUpTo generationAfter n := by
  intro i j hi hj heq
  have heq' := congrArg UInt32.toNat heq
  rw [generationAfter_toNat (by omega), generationAfter_toNat (by omega)] at heq'
  omega

/-- The generation `g` of a connection with this history of stored states
belongs to `state`. -/
abbrev Granted (history : List (Option PeerState)) (g : UInt32)
    (state : Option PeerState) : Prop :=
  Ledger.Names generationAfter history g state

/-! ## The system -/

/-- A packet that was routed: the router and the moment, the packet, and the
downlinks handed out. -/
structure Relay where
  router : Router
  now : TimePoint
  speaker : ConnectionId
  uplink : UplinkPacket
  downlinks : List (ConnectionId × DownlinkPacket)

/-- The state of the system. -/
structure Net where
  router : Router := {}
  pending : List ControlCall := []
  sent : List ControlCall := []
  registered : List ConnectionId := []
  history : ConnectionId → List (Option PeerState) := fun _ => []
  controls : ConnectionId → List Control := fun _ => []
  clients : ConnectionId → Client
  relays : List Relay := []
  clock : Nat := 1

/-- A step of the system. -/
inductive NetStep
  | addPeer (now : TimePoint) (c : ConnectionId) (callback : Bool)
  | removePeer (c : ConnectionId)
  | beginControl (now : TimePoint) (c : ConnectionId) (requested : Option PeerState)
  | sendControl (call : ControlCall) (sendOk : Bool)
  | confirmControl (call : ControlCall)
  | setHearEnemiesVoice (enable : Bool)
  | reset
  | uplink (now : TimePoint) (c : ConnectionId) (packet : UplinkPacket)
      (sendOk : ConnectionId → Bool)
  | deliverControl (c : ConnectionId)
  | deliverDownlink (c : ConnectionId) (packet : DownlinkPacket)
  | client (c : ConnectionId) (call : ClientCall)

namespace Net

/-- The history of a connection after its peer's generation may have moved. -/
def recordChange (history : List (Option PeerState)) (before after : Option Membership) :
    List (Option PeerState) :=
  match before, after with
  | some m, some m' => if m'.generation = m.generation then history else history ++ [m'.stored]
  | _, _ => history

/-- The control message of a call. -/
def message (call : ControlCall) : Control := ⟨call.control, call.requested⟩

/-- A local call of a client: deliveries have labels of their own. -/
def isLocal : ClientCall → Bool
  | .handleSessionPacket _ => false
  | .pushIncomingPacket _ => false
  | _ => true

/-- The client of `c` performs a call. -/
def perform (s : Net) (c : ConnectionId) (call : ClientCall) : Net :=
  { s with clients := Function.update s.clients c ((s.clients c).perform s.clock call) }

/-- One step, before the clock moves on. -/
def act (honest : ConnectionId → Bool) (s : Net) : NetStep → Option Net
  | .addPeer now c callback =>
      if c ∈ s.registered then none
      else
        let added := Voice.addPeer s.router now c callback
        some { s with
          router := added.1
          registered := if added.2 then c :: s.registered else s.registered }
  | .removePeer c => some { s with router := Voice.removePeer s.router c }
  | .beginControl now c requested =>
      let begun := Voice.beginControl s.router now c requested
      some { s with
        router := begun.1
        pending := match begun.2 with
          | .done _ => s.pending
          | .send call => call :: s.pending
        history := Function.update s.history c
          (recordChange (s.history c) (s.router.membership c) (begun.1.membership c)) }
  | .sendControl call sendOk =>
      if call ∈ s.pending then
        if sendOk then
          some { s with
            pending := s.pending.erase call
            sent := call :: s.sent
            controls := Function.update s.controls call.connectionid
              (s.controls call.connectionid ++ [message call]) }
        else
          some { s with
            pending := s.pending.erase call
            router := countSendFailure s.router }
      else none
  | .confirmControl call =>
      if call ∈ s.sent then
        some { s with
          sent := s.sent.erase call
          router := (Voice.confirmControl s.router call).1 }
      else none
  | .setHearEnemiesVoice enable =>
      some { s with router := Voice.setHearEnemiesVoice s.router enable }
  | .reset => some { s with router := Voice.reset s.router }
  | .uplink now c packet sendOk =>
      if honest c = false ∨
          (s.clients c).popped.any (fun popped => popped.frame.packet == packet) then
        let called := handleVoicePacket s.router now c packet sendOk
        some { s with
          router := called.1
          relays :=
            if verdict s.router now c packet = .routed then
              ⟨s.router, now, c, packet, called.2⟩ :: s.relays
            else s.relays }
      else none
  | .deliverControl c =>
      match s.controls c with
      | [] => none
      | control :: rest =>
          some ({ s with controls := Function.update s.controls c rest }.perform c
            (.handleSessionPacket control))
  | .deliverDownlink c packet =>
      if s.relays.any (fun relay => relay.downlinks.any (· == (c, packet))) then
        some (s.perform c (.pushIncomingPacket packet))
      else none
  | .client c call => if isLocal call then some (s.perform c call) else none

/-- One step of the system. -/
def step (honest : ConnectionId → Bool) (s : Net) (a : NetStep) : Option Net :=
  (s.act honest a).map fun t => { t with clock := s.clock + 1 }

/-- The system before anything has happened. -/
def start (config : Config) (processors : ConnectionId → ProcessorConfig) : Net :=
  { router := { config := config }
    clients := fun c => { processor := Processor.create (processors c) } }

/-! ## The invariant -/

/-- A message was sent for a membership of the history, or closes the session. -/
def Sound (history : List (Option PeerState)) (control : Control) : Prop :=
  match control.state with
  | some state =>
      ∃ g, Granted history g (some state) ∧ control.packet =
        { enabled := true
          sessionid := state.sessionid
          membershipgeneration := g
          playerid := state.playerid }
  | none => control.packet.enabled = false

/-- A control call publishes a membership of the history. -/
def CallSound (history : List (Option PeerState)) (call : ControlCall) : Prop :=
  ∀ state, call.requested = some state → Granted history call.generation (some state)

/-- The membership of a registered connection is the newest of its history. -/
structure PeerSound (history : List (Option PeerState)) (m : Membership) : Prop where
  wellFormed : m.WellFormed
  generation : m.generation = generationAfter history.length
  granted : ∀ state, m.stored = some state → Granted history m.generation (some state)

/-- The downlinks of a relay were handed out by the router it remembers, to and
from memberships of the histories. -/
structure RelaySound (history : ConnectionId → List (Option PeerState)) (relay : Relay) :
    Prop where
  routed : verdict relay.router relay.now relay.speaker relay.uplink = .routed
  wellFormed : relay.router.WellFormed
  handed : ∃ sendOk, relay.downlinks =
    (handleVoicePacket relay.router relay.now relay.speaker relay.uplink sendOk).2
  granted : ∀ c peer, relay.router.peers.lookup c = some peer → peer.hasstate = true →
    Granted (history c) peer.generation (some peer.state)

/-- The invariant of the system. -/
structure Inv (honest : ConnectionId → Bool) (s : Net) : Prop where
  peers : ∀ c m, s.router.membership c = some m → c ∈ s.registered ∧ PeerSound (s.history c) m
  fresh : ∀ c, c ∉ s.registered → s.history c = []
  pending : ∀ call ∈ s.pending, CallSound (s.history call.connectionid) call
  sent : ∀ call ∈ s.sent, CallSound (s.history call.connectionid) call
  controls : ∀ c, ∀ control ∈ s.controls c, Sound (s.history c) control
  applied : ∀ c control, (s.clients c).applied = some control → Sound (s.history c) control
  popped : ∀ c, ∀ popped ∈ (s.clients c).popped, ∀ control,
    popped.applied = some control → Sound (s.history c) control
  clients : ∀ c, (s.clients c).Inv s.clock
  relays : ∀ relay ∈ s.relays, RelaySound s.history relay
  honest : ∀ relay ∈ s.relays, honest relay.speaker = true →
    ∃ popped ∈ (s.clients relay.speaker).popped, popped.frame.packet = relay.uplink

/-! ## Histories only grow -/

theorem CallSound.extends {h h' : List (Option PeerState)} {call : ControlCall}
    (hcall : CallSound h call) (hext : ∃ t, h' = h ++ t) : CallSound h' call := by
  obtain ⟨t, rfl⟩ := hext
  exact fun state hstate => (hcall state hstate).append t

theorem Sound.extends {h h' : List (Option PeerState)} {control : Control}
    (hsound : Sound h control) (hext : ∃ t, h' = h ++ t) : Sound h' control := by
  obtain ⟨t, rfl⟩ := hext
  unfold Sound at *
  cases hstate : control.state with
  | none => simpa [hstate] using hsound
  | some state =>
      simp only [hstate] at hsound
      obtain ⟨g, hg, hpacket⟩ := hsound
      exact ⟨g, hg.append t, hpacket⟩

/-- Every history of `h'` goes on from the one of `h`. -/
def Extends (h h' : ConnectionId → List (Option PeerState)) : Prop :=
  ∀ c, ∃ t, h' c = h c ++ t

theorem RelaySound.extends {history history' : ConnectionId → List (Option PeerState)}
    {relay : Relay} (h : RelaySound history relay) (hext : Extends history history') :
    RelaySound history' relay where
  routed := h.routed
  wellFormed := h.wellFormed
  handed := h.handed
  granted c peer hpeer hstate := by
    obtain ⟨t, ht⟩ := hext c
    rw [ht]
    exact (h.granted c peer hpeer hstate).append t

theorem recordChange_append (history : List (Option PeerState))
    (before after : Option Membership) :
    ∃ t, recordChange history before after = history ++ t := by
  unfold recordChange
  split
  · split_ifs
    · exact ⟨[], by simp⟩
    · exact ⟨_, rfl⟩
  · exact ⟨[], by simp⟩

theorem recordChange_same {history : List (Option PeerState)} {m m' : Membership}
    (h : m'.generation = m.generation) : recordChange history (some m) (some m') = history :=
  if_pos h

theorem recordChange_next {history : List (Option PeerState)} {m m' : Membership}
    (h : m'.generation = nextGeneration m.generation) :
    recordChange history (some m) (some m') = history ++ [m'.stored] :=
  if_neg (h ▸ nextGeneration_ne_self m.generation)

/-- **A request makes history.**  The membership after a request is the newest
of the recorded history. -/
theorem PeerSound.request {history : List (Option PeerState)} {m : Membership}
    (h : PeerSound history m) (requested : Option PeerState) :
    PeerSound
      (recordChange history (some m) (some (m.request (effectiveRequest requested))))
      (m.request (effectiveRequest requested)) where
  wellFormed := h.wellFormed.request requested
  generation := by
    rcases m.request_cases (effectiveRequest requested) with ⟨hsame, -⟩ | ⟨hnext, -⟩
    · rw [recordChange_same hsame, hsame, h.generation]
    · rw [recordChange_next hnext, hnext, List.length_append, List.length_singleton,
        generationAfter_succ, h.generation]
  granted state hstored := by
    rcases m.request_cases (effectiveRequest requested) with ⟨hsame, hkept⟩ | ⟨hnext, -⟩
    · rw [recordChange_same hsame, hsame]
      exact h.granted state (hkept ▸ hstored)
    · rw [recordChange_next hnext, hnext, hstored, h.generation, ← generationAfter_succ]
      exact Ledger.Names.snoc history (some state)

/-! ## The invariant, step by step -/

variable {honest : ConnectionId → Bool} {s : Net}

/-- Replacing the router keeps the invariant when its peers are still sound. -/
theorem Inv.setRouter (h : Inv honest s) (router : Router)
    (hpeers : ∀ c m, router.membership c = some m →
      c ∈ s.registered ∧ PeerSound (s.history c) m) :
    Inv honest { s with router := router } :=
  { h with peers := hpeers }

/-- Control calls may go, and calls may come that were sound before. -/
theorem Inv.setCalls (h : Inv honest s) (pending sent : List ControlCall)
    (hpending : ∀ call ∈ pending, call ∈ s.pending)
    (hsent : ∀ call ∈ sent, call ∈ s.sent ∨ call ∈ s.pending) :
    Inv honest { s with pending := pending, sent := sent } :=
  { h with
    pending := fun call hcall => h.pending call (hpending call hcall)
    sent := fun call hcall => (hsent call hcall).elim (h.sent call) (h.pending call) }

/-- The clock moves on. -/
theorem Inv.tick (h : Inv honest s) : Inv honest { s with clock := s.clock + 1 } :=
  { h with clients := fun c => (h.clients c).mono (Nat.le_succ _) }

/-- A call of a client, with the clock moving on; a control it applies is
sound. -/
theorem Inv.perform (h : Inv honest s) (c : ConnectionId) (call : ClientCall)
    (hcontrol : ∀ control, call = .handleSessionPacket control →
      Sound (s.history c) control) :
    Inv honest { s.perform c call with clock := s.clock + 1 } := by
  have hclient : ∀ d, (s.perform c call).clients d =
      if d = c then (s.clients c).perform s.clock call else s.clients d := by
    intro d
    by_cases hd : d = c
    · subst hd
      simp [Net.perform]
    · simp [Net.perform, hd]
  refine { h with applied := ?_, popped := ?_, clients := ?_, honest := ?_ }
  · intro d control happlied
    simp only [hclient] at happlied
    split_ifs at happlied with hd
    · subst hd
      rcases Client.appliedAfter_some happlied with hold | hnew
      · exact h.applied d control hold
      · exact hcontrol control hnew
    · exact h.applied d control happlied
  · intro d popped hpopped control hunder
    simp only [hclient] at hpopped
    split_ifs at hpopped with hd
    · subst hd
      rcases Client.mem_poppedAfter hpopped with hold | hnew
      · exact h.popped d popped hold control hunder
      · exact h.applied d control (hnew ▸ hunder)
    · exact h.popped d popped hpopped control hunder
  · intro d
    simp only [hclient]
    split_ifs with hd
    · exact Client.perform_inv (h.clients c) call
    · exact (h.clients d).mono (Nat.le_succ _)
  · intro relay hrelay hhonest
    obtain ⟨popped, hpopped, hpacket⟩ := h.honest relay hrelay hhonest
    refine ⟨popped, ?_, hpacket⟩
    simp only [hclient]
    split_ifs with hd
    · exact Client.popped_subset _ call (hd ▸ hpopped)
    · exact hpopped

theorem Inv.addPeer (h : Inv honest s) (now : TimePoint) {c : ConnectionId}
    (hnew : c ∉ s.registered) (callback : Bool) :
    Inv honest { s with
      router := (Voice.addPeer s.router now c callback).1
      registered := if (Voice.addPeer s.router now c callback).2 then c :: s.registered
        else s.registered } := by
  rcases addPeer_membership s.router now c callback with
    ⟨hresult, hsame⟩ | ⟨hresult, -, hadded⟩
  · simp only [hresult]
    exact h.setRouter _ fun d m hm => h.peers d m (hsame d ▸ hm)
  · simp only [hresult, if_true]
    refine { h with peers := ?_, fresh := ?_ }
    · intro d m hm
      have hm' := (hadded d).symm.trans hm
      split_ifs at hm' with hd
      · cases hm'
        rw [hd, h.fresh c hnew]
        exact ⟨List.mem_cons_self, Membership.fresh_wellFormed _, rfl, fun state hstate => by
          simp [Membership.fresh] at hstate⟩
      · exact ⟨List.mem_cons_of_mem _ (h.peers d m hm').1, (h.peers d m hm').2⟩
    · intro d hd
      exact h.fresh d fun hmem => hd (List.mem_cons_of_mem _ hmem)

/-- Histories that go on keep everything sound but the peers, which must be
checked against them. -/
theorem Inv.setHistory (h : Inv honest s) (router : Router)
    {history : ConnectionId → List (Option PeerState)} (hext : Extends s.history history)
    (hpeers : ∀ c m, router.membership c = some m →
      c ∈ s.registered ∧ PeerSound (history c) m)
    (hfresh : ∀ c, c ∉ s.registered → history c = []) :
    Inv honest { s with router := router, history := history } :=
  { h with
    peers := hpeers
    fresh := hfresh
    pending := fun call hcall => (h.pending call hcall).extends (hext call.connectionid)
    sent := fun call hcall => (h.sent call hcall).extends (hext call.connectionid)
    controls := fun c control hcontrol => (h.controls c control hcontrol).extends (hext c)
    applied := fun c control hcontrol => (h.applied c control hcontrol).extends (hext c)
    popped := fun c popped hpopped control hcontrol =>
      (h.popped c popped hpopped control hcontrol).extends (hext c)
    relays := fun relay hrelay => (h.relays relay hrelay).extends hext }

theorem extends_update (h : ConnectionId → List (Option PeerState)) (c : ConnectionId)
    (before after : Option Membership) :
    Extends h (Function.update h c (recordChange (h c) before after)) := by
  intro d
  by_cases hd : d = c
  · subst hd
    simpa using recordChange_append (h d) before after
  · exact ⟨[], by simp [hd]⟩

theorem Inv.beginControl (h : Inv honest s) (now : TimePoint) (c : ConnectionId)
    (requested : Option PeerState) :
    Inv honest { s with
      router := (Voice.beginControl s.router now c requested).1
      pending := match (Voice.beginControl s.router now c requested).2 with
        | .done _ => s.pending
        | .send call => call :: s.pending
      history := Function.update s.history c (recordChange (s.history c)
        (s.router.membership c)
        ((Voice.beginControl s.router now c requested).1.membership c)) } := by
  have hafter := beginControl_membership s.router now c requested
  have hstart := beginControl_start s.router now c requested
  cases hm : s.router.membership c with
  | none =>
      simp only [hm, Option.map_none] at hafter hstart
      simp only [hstart, recordChange, Function.update_eq_self]
      refine h.setRouter _ fun d m hd => ?_
      rw [hafter] at hd
      split_ifs at hd
      exact h.peers d m hd
  | some m =>
      simp only [hm, Option.map_some] at hafter hstart
      obtain ⟨hregistered, hsound⟩ := h.peers c m hm
      have hrequest := hsound.request requested
      simp only [hafter, if_true]
      have hbegun := h.setHistory (Voice.beginControl s.router now c requested).1
        (extends_update s.history c (some m)
          (some (m.request (effectiveRequest requested))))
        (fun d m' hd => by
          rw [hafter] at hd
          split_ifs at hd with heq
          · subst heq
            obtain rfl := Option.some.inj hd
            simpa using ⟨hregistered, hrequest⟩
          · simpa [heq] using h.peers d m' hd)
        (fun d hd => by
          have hne : d ≠ c := fun heq => hd (heq ▸ hregistered)
          simpa [hne] using h.fresh d hd)
      refine { hbegun with pending := fun call hcall => ?_ }
      rw [hstart] at hcall
      split_ifs at hcall with hdone
      · exact hbegun.pending call hcall
      · rcases List.mem_cons.mp hcall with rfl | hold
        · intro state hstate
          have hstored := (Membership.request_stillRequested c hdone).2.2
          simpa [Membership.call] using hrequest.granted state (hstored.trans hstate)
        · exact hbegun.pending call hold

theorem Inv.confirmControl (h : Inv honest s) (call : ControlCall) :
    Inv honest { s with
      sent := s.sent.erase call
      router := (Voice.confirmControl s.router call).1 } := by
  have hrouter := h.setRouter (Voice.confirmControl s.router call).1
    fun d m hm => by
      rw [confirmControl_membership] at hm
      split_ifs at hm with hd
      · obtain ⟨m', hm', rfl⟩ := Option.map_eq_some_iff.mp hm
        obtain ⟨hregistered, hsound⟩ := h.peers d m' hm'
        refine ⟨hregistered, ?_⟩
        split_ifs
        · exact ⟨hsound.wellFormed.publish, hsound.generation, hsound.granted⟩
        · exact hsound
      · exact h.peers d m hm
  exact hrouter.setCalls _ _ (fun _ hcall => hcall) fun _ hcall => .inl (List.mem_of_mem_erase hcall)

theorem Inv.sendControl (h : Inv honest s) {call : ControlCall} (hcall : call ∈ s.pending) :
    Inv honest { s with
      pending := s.pending.erase call
      sent := call :: s.sent
      controls := Function.update s.controls call.connectionid
        (s.controls call.connectionid ++ [message call]) } := by
  have hcalls := h.setCalls (s.pending.erase call) (call :: s.sent)
    (fun _ hmem => List.mem_of_mem_erase hmem)
    (fun _ hmem => (List.mem_cons.mp hmem).elim (fun heq => .inr (heq ▸ hcall)) .inl)
  refine { hcalls with controls := fun c control hcontrol => ?_ }
  by_cases hc : c = call.connectionid
  · subst hc
    simp only [Function.update_self, List.mem_append, List.mem_singleton] at hcontrol
    rcases hcontrol with hold | rfl
    · exact h.controls _ control hold
    · have hsound := h.pending call hcall
      unfold Sound message ControlCall.control
      cases hrequested : call.requested with
      | none => rfl
      | some state => exact ⟨call.generation, hsound state hrequested, rfl⟩
  · simp only [Function.update_of_ne hc] at hcontrol
    exact h.controls c control hcontrol

/-- The peers of a router that satisfies the invariant are well formed. -/
theorem Inv.wellFormed (h : Inv honest s) : s.router.WellFormed :=
  fun c m hm => (h.peers c m hm).2.wellFormed

theorem Inv.uplink (h : Inv honest s) (now : TimePoint) (c : ConnectionId)
    (packet : UplinkPacket) (sendOk : ConnectionId → Bool)
    (hhonest : honest c = true →
      ∃ popped ∈ (s.clients c).popped, popped.frame.packet = packet) :
    Inv honest { s with
      router := (handleVoicePacket s.router now c packet sendOk).1
      relays :=
        if verdict s.router now c packet = .routed then
          ⟨s.router, now, c, packet, (handleVoicePacket s.router now c packet sendOk).2⟩ ::
            s.relays
        else s.relays } := by
  have hrouter := h.setRouter (handleVoicePacket s.router now c packet sendOk).1
    fun d m hm => h.peers d m (by rwa [handleVoicePacket_membership] at hm)
  split_ifs with hrouted
  · refine { hrouter with relays := fun relay hrelay => ?_, honest := fun relay hrelay => ?_ }
    · rcases List.mem_cons.mp hrelay with rfl | hold
      · exact
          { routed := hrouted
            wellFormed := h.wellFormed
            handed := ⟨sendOk, rfl⟩
            granted := fun d peer hpeer hstate =>
              (h.peers d _ (Router.membership_of_lookup hpeer)).2.granted peer.state
                (by simpa [Peer.membership] using hstate) }
      · exact h.relays relay hold
    · rcases List.mem_cons.mp hrelay with rfl | hold
      · exact hhonest
      · exact h.honest relay hold
  · exact hrouter

/-- **Step lemma.**  Every step of the system keeps the invariant. -/
theorem step_inv {t : Net} {a : NetStep} (h : Inv honest s) (ht : step honest s a = some t) :
    Inv honest t := by
  obtain ⟨m, hm, rfl⟩ := Option.map_eq_some_iff.mp ht
  cases a with
  | addPeer now c callback =>
      by_cases hnew : c ∈ s.registered
      · simp [act, hnew] at hm
      · simp only [act, if_neg hnew] at hm
        cases hm
        exact (h.addPeer now hnew callback).tick
  | removePeer c =>
      cases hm
      refine (h.setRouter _ fun d m hm => ?_).tick
      rw [removePeer_membership] at hm
      split_ifs at hm
      exact h.peers d m hm
  | beginControl now c requested =>
      cases hm
      exact (h.beginControl now c requested).tick
  | sendControl call sendOk =>
      simp only [act] at hm
      split_ifs at hm with hcall hok
      · cases hm
        exact (h.sendControl hcall).tick
      · cases hm
        exact ((h.setRouter (countSendFailure s.router) h.peers).setCalls _ _
          (fun _ hmem => List.mem_of_mem_erase hmem) fun _ hmem => .inl hmem).tick
  | confirmControl call =>
      simp only [act] at hm
      split_ifs at hm with hcall
      cases hm
      exact (h.confirmControl call).tick
  | setHearEnemiesVoice enable =>
      cases hm
      exact (h.setRouter (Voice.setHearEnemiesVoice s.router enable) h.peers).tick
  | reset =>
      cases hm
      exact (h.setRouter _ fun d m hm => by simp [reset_membership] at hm).tick
  | uplink now c packet sendOk =>
      by_cases hallowed : honest c = false ∨
          (s.clients c).popped.any (fun popped => popped.frame.packet == packet) = true
      · simp only [act, if_pos hallowed] at hm
        cases hm
        refine (h.uplink now c packet sendOk fun hhonest => ?_).tick
        simpa [hhonest] using hallowed
      · simp only [act, if_neg hallowed] at hm
        cases hm
  | deliverControl c =>
      simp only [act] at hm
      split at hm
      · cases hm
      · rename_i control rest hcontrols
        cases hm
        have hsound : Sound (s.history c) control :=
          h.controls c control (hcontrols ▸ List.mem_cons_self)
        have hrest : Inv honest { s with controls := Function.update s.controls c rest } :=
          { h with
            controls := fun d control' hmem => by
              by_cases hd : d = c
              · subst hd
                simp only [Function.update_self] at hmem
                exact h.controls d control' (hcontrols ▸ List.mem_cons_of_mem _ hmem)
              · simp only [Function.update_of_ne hd] at hmem
                exact h.controls d control' hmem }
        exact hrest.perform c _ fun control' heq => by cases heq; exact hsound
  | deliverDownlink c packet =>
      simp only [act] at hm
      split_ifs at hm
      cases hm
      exact h.perform c _ fun control heq => by cases heq
  | client c call =>
      simp only [act] at hm
      split_ifs at hm with hlocal
      cases hm
      exact h.perform c _ fun control heq => by subst heq; simp [isLocal] at hlocal

theorem start_inv (honest : ConnectionId → Bool) (config : Config)
    (processors : ConnectionId → ProcessorConfig) : Inv honest (start config processors) where
  peers c m hm := by simp [start, Router.membership] at hm
  fresh _ _ := rfl
  pending _ hcall := absurd hcall List.not_mem_nil
  sent _ hcall := absurd hcall List.not_mem_nil
  controls _ _ hcontrol := absurd hcontrol List.not_mem_nil
  applied _ _ happlied := by simp [start] at happlied
  popped _ _ hpopped := absurd hpopped List.not_mem_nil
  clients c := Client.create_inv (processors c)
  relays _ hrelay := absurd hrelay List.not_mem_nil
  honest _ hrelay := absurd hrelay List.not_mem_nil

/-- **Run lemma.**  Every state of every run satisfies the invariant. -/
theorem reached_inv {config : Config} {processors : ConnectionId → ProcessorConfig}
    (h : Exec.Reached (step honest) (start config processors) s) : Inv honest s :=
  h.invariant (Inv honest) (start_inv honest config processors) fun _ _ _ hs ht => step_inv hs ht

theorem recordChange_length (history : List (Option PeerState))
    (before after : Option Membership) :
    (recordChange history before after).length ≤ history.length + 1 := by
  unfold recordChange
  split
  · split_ifs <;> simp
  · simp

/-- A step adds at most one membership to a history. -/
theorem act_history_length {m : Net} {a : NetStep} (h : act honest s a = some m)
    (c : ConnectionId) : (m.history c).length ≤ (s.history c).length + 1 := by
  cases a with
  | beginControl now d requested =>
      cases h
      by_cases hc : c = d
      · subst hc
        simpa using recordChange_length (s.history c) _ _
      · simp [hc]
  | deliverControl d =>
      simp only [act] at h
      split at h <;> cases h
      exact Nat.le_succ _
  | _ =>
      simp only [act] at h
      try split_ifs at h
      all_goals
        cases h
        exact Nat.le_succ _

/-- A history is never longer than the run. -/
theorem history_length_lt_clock {config : Config}
    {processors : ConnectionId → ProcessorConfig}
    (h : Exec.Reached (step honest) (start config processors) s) (c : ConnectionId) :
    (s.history c).length < s.clock := by
  refine h.invariant (fun s => (s.history c).length < s.clock) Nat.one_pos
    fun s a t hs ht => ?_
  obtain ⟨m, hm, rfl⟩ := Option.map_eq_some_iff.mp ht
  have := act_history_length hm c
  show (m.history c).length < s.clock + 1
  omega

end Net

end Voice
