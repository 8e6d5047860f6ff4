import GipMultiplayer.Easing
import GipMultiplayer.Keepalives
import Mathlib.Analysis.Convex.Hull
import Mathlib.Tactic.Linarith

/-!
# Where players are shown

A player's box follows its camera twenty times a second.  As often the backend
sends where the box is, and the host hands that to everyone else.  There the
place becomes a target, and in every frame the box that stands for the player
goes some of the way to it.  A frame that has stalled moves nothing and sends
nothing; nor does the frame in which a client finds that the host is silent.

Packets may be late by any time, but each session keeps its order.

* `Player`, `step` — the players, and what is under way from and to each;
* `Sound` — what is under way was sampled, in order;
* `shown_in_hull` — a player is shown among the places it has been at;
* `shown_settles` — and comes to where it stands still.
-/

namespace Motion

open Easing (ease remaining)

/-! ## Players -/

/-- A place; coordinates are taken to be rational. -/
abbrev Vec := ℚ × ℚ × ℚ

/-- Where boxes are put first. -/
def spawn : Vec := (3 / 2, 1 / 4, 3 / 2)

/-- Where the box of a camera is. -/
def boxOf (camera : Vec) : Vec := (camera.1, camera.2.1 - 7 / 40, camera.2.2)

/-- `NodeStatePacket`, but for its id.  Written down for the law: how many places
the sender had taken. -/
structure NodeState where
  position : Vec
  yaw : ℚ
  team : UInt8
  animState : UInt8
  taken : Nat
  deriving DecidableEq

/-- What the host hands to a player. -/
inductive Packet
  | nodeState (netid : UInt32) (state : NodeState)
  | nodeLeave (netid : UInt32)
  deriving DecidableEq

/-- The `NetNode` of another player, with the place of its node. -/
structure RemoteNode where
  position : Vec := spawn
  target : Vec := spawn
  targetYaw : ℚ := 0
  targetAnimState : UInt8 := 0
  team : UInt8 := 0
  taken : Nat := 0

/-- `RemotePlayerState`, but for the team. -/
structure RemotePlayerState where
  id : UInt32
  position : Vec
  yaw : ℚ
  animState : UInt8

/-- A player: its camera, the synchronizer with the box of its own and the ids of
the boxes it draws, the backend, the states it has sent that the host has not
passed on, and the packets under way to it.  `been` has the places its box was put
to, `cameras` those its camera was at. -/
structure Player where
  camera : Vec
  cameraYaw : ℚ := 0
  animState : UInt8 := 0
  networktimer : ℚ := 0
  localmultiplayerbox : Vec := spawn
  remotemultiplayerboxes : List UInt32 := []
  playersnapshot : List RemotePlayerState := []
  callbacks : Bool := false
  attached : Bool := false
  localYaw : ℚ := 0
  localAnimState : UInt8 := 0
  localTeam : UInt8 := 1
  clocks : GameBackend.Clocks
  networkTimer : ℚ := 0
  nodes : UInt32 → Option RemoteNode := fun _ => none
  packetQueue : List Packet := []
  sent : List NodeState := []
  wire : List Packet := []
  connected : Bool := false
  been : List Vec := [spawn]
  cameras : List Vec

/-- The box is put to a place. -/
def Player.place (p : Player) (position : Vec) : Player :=
  { p with localmultiplayerbox := position, been := p.been ++ [position] }

/-! ## The synchronizer -/

/-- `setup`; the team is that of the room. -/
def Player.setup (p : Player) (team : UInt8) : Player :=
  { p.place spawn with
    remotemultiplayerboxes := []
    playersnapshot := []
    networktimer := 0
    attached := true
    localYaw := 0
    localAnimState := 0
    localTeam := team
    callbacks := true }

/-- `cleanup`. -/
def Player.cleanup (p : Player) : Player :=
  { p with
    attached := false
    nodes := fun id => if id ∈ p.remotemultiplayerboxes then none else p.nodes id
    remotemultiplayerboxes := []
    playersnapshot := [] }

/-- `publishSnapshot`. -/
def Player.publishSnapshot (p : Player) : Player :=
  { p with
    playersnapshot := p.remotemultiplayerboxes.filterMap fun id => (p.nodes id).map fun node =>
      ⟨id, node.position, node.targetYaw, node.targetAnimState⟩ }

/-- `NetworkSynchronizer::update`. -/
def Player.synchronize (p : Player) (deltaTime : ℚ) : Player :=
  let networktimer := p.networktimer + deltaTime
  if 1 / 20 ≤ networktimer then
    Player.publishSnapshot
      { p.place (boxOf p.camera) with
        networktimer := 0
        localYaw := if p.attached then p.cameraYaw else p.localYaw
        localAnimState := if p.attached then p.animState else p.localAnimState }
  else Player.publishSnapshot { p with networktimer := networktimer }

/-! ## The backend -/

/-- A remote node takes over what a state says. -/
def RemoteNode.hear (node : RemoteNode) (state : NodeState) : RemoteNode :=
  { node with
    target := state.position
    targetYaw := state.yaw
    targetAnimState := state.animState
    team := state.team
    taken := state.taken }

/-- A node, in the map. -/
def Player.setNode (p : Player) (netid : UInt32) (node : Option RemoteNode) : Player :=
  { p with nodes := fun id => if id = netid then node else p.nodes id }

/-- `onPacketReceived`, with the callbacks that `setup` installs. -/
def Player.receive (localId : UInt32) (p : Player) : Packet → Player
  | .nodeState netid state =>
      if netid = localId then p
      else
        match p.nodes netid with
        | some node => p.setNode netid (some (node.hear state))
        | none =>
            if p.callbacks then
              { p.setNode netid (some (RemoteNode.hear {} state)) with
                remotemultiplayerboxes := p.remotemultiplayerboxes ++ [netid] }
            else p
  | .nodeLeave netid =>
      if p.callbacks then
        { p.setNode netid none with
          attached := p.attached && netid ≠ localId
          remotemultiplayerboxes := p.remotemultiplayerboxes.filter (· ≠ netid) }
      else p

/-- How much of its way a node goes in a frame. -/
def lerpFactor (deltaTime : ℚ) : ℚ := if 1 < 15 * deltaTime then 1 else 15 * deltaTime

/-- A remote node in a frame. -/
def RemoteNode.ease (deltaTime : ℚ) (node : RemoteNode) : RemoteNode :=
  { node with position := Easing.ease node.target node.position (lerpFactor deltaTime) }

/-- The frame gets past the clocks: it has not stalled, and no client gives up. -/
def goesOn (clocks : GameBackend.Clocks) (frame : GameBackend.Frame) : Bool :=
  let clocks := GameBackend.notifyDisconnected^[frame.tasks]
    (GameBackend.onPacketReceived^[frame.packets] clocks)
  !decide (Remote.stalledFrameSeconds < frame.deltaTime) &&
    (clocks.isServer || clocks.disconnectNotified ||
      !decide (Remote.silenceSeconds < clocks.timeSinceLastKeepAlive + frame.deltaTime))

/-- The state the backend broadcasts of the local node. -/
def Player.localState (p : Player) : NodeState :=
  ⟨p.localmultiplayerbox, p.localYaw, p.localTeam, p.localAnimState, p.been.length⟩

/-- The packets of the queue are received. -/
def Player.drain (localId : UInt32) (p : Player) : Player :=
  p.packetQueue.foldl (Player.receive localId) { p with packetQueue := [] }

/-- The rest of a frame: the nodes, and the network tick. -/
def Player.advance (p : Player) (deltaTime : ℚ) : Player :=
  let p := { p with nodes := fun id => (p.nodes id).map (RemoteNode.ease deltaTime) }
  let networkTimer := p.networkTimer + deltaTime
  if 1 / 20 ≤ networkTimer then
    { p with
      networkTimer := 0
      sent := if p.attached ∧ p.connected then p.sent ++ [p.localState] else p.sent }
  else { p with networkTimer := networkTimer }

/-- What a frame is to the clocks: the packets in the queue, and `others` with them
that are of no concern here. -/
def Player.frame (p : Player) (deltaTime : ℚ) (others tasks : Nat) : GameBackend.Frame :=
  ⟨deltaTime, p.packetQueue.length + others, tasks⟩

/-- `GameBackend::update`. -/
def Player.update (localId : UInt32) (p : Player) (deltaTime : ℚ) (others tasks : Nat) : Player :=
  let frame := p.frame deltaTime others tasks
  let drained := p.drain localId
  let next := { drained with clocks := (GameBackend.update p.clocks frame).1 }
  if goesOn p.clocks frame then next.advance deltaTime else next

/-! ## The match -/

/-- What can happen: a player looks around, enters or leaves the match, has a
frame of its synchronizer or of its backend; the host passes on what a player has
sent, at once for its own; a packet arrives; a session opens or is lost; the host
tells a player that another one has left. -/
inductive Action
  | move (a : UInt32) (camera : Vec) (cameraYaw : ℚ) (animState : UInt8)
  | setup (a : UInt32) (team : UInt8)
  | cleanup (a : UInt32)
  | synchronize (a : UInt32) (deltaTime : ℚ)
  | update (a : UInt32) (deltaTime : ℚ) (others tasks : Nat)
  | relay (a : UInt32)
  | arrive (a : UInt32)
  | connect (a : UInt32)
  | disconnect (a : UInt32)
  | leave (a netid : UInt32)

/-- All the players, by their ids. -/
abbrev Players := UInt32 → Player

/-- The state of one player is handed to everyone else who is connected. -/
def hand (origin : UInt32) (state : NodeState) (s : Players) : Players := fun v =>
  if v ≠ origin ∧ (s v).connected then
    { s v with wire := (s v).wire ++ [.nodeState origin state] }
  else s v

/-- One step. -/
def step (s : Players) : Action → Option Players
  | .move a camera cameraYaw animState =>
      some (Function.update s a
        { s a with
          camera := camera
          cameraYaw := cameraYaw
          animState := animState
          cameras := (s a).cameras ++ [camera] })
  | .setup a team => some (Function.update s a ((s a).setup team))
  | .cleanup a => some (Function.update s a (s a).cleanup)
  | .synchronize a deltaTime =>
      if 0 ≤ deltaTime then some (Function.update s a ((s a).synchronize deltaTime)) else none
  | .update a deltaTime others tasks =>
      if 0 ≤ deltaTime then some (Function.update s a ((s a).update a deltaTime others tasks))
      else none
  | .relay a =>
      match (s a).sent with
      | [] => none
      | state :: rest => some (hand a state (Function.update s a { s a with sent := rest }))
  | .arrive a =>
      match (s a).wire with
      | [] => none
      | packet :: rest =>
          some (Function.update s a
            { s a with packetQueue := (s a).packetQueue ++ [packet], wire := rest })
  | .connect a => some (Function.update s a { s a with connected := true })
  | .disconnect a =>
      some (Function.update s a { s a with connected := false, sent := [], wire := [] })
  | .leave a netid =>
      some (Function.update s a { s a with wire := (s a).wire ++ [.nodeLeave netid] })

/-- The players as they start, with their first cameras. -/
def start (clocks : UInt32 → GameBackend.Clocks) (cameras : UInt32 → Vec) : Players := fun a =>
  { clocks := clocks a, camera := cameras a, cameras := [cameras a] }

/-! ## What is under way -/

/-- The places of a list, and what lies between them. -/
def hull (places : List Vec) : Set Vec := convexHull ℚ {place | place ∈ places}

/-- The place is the one of number `taken` among those that were taken. -/
def Genuine (been : List Vec) (position : Vec) (taken : Nat) : Prop :=
  0 < taken ∧ been[taken - 1]? = some position

/-- How many places had been taken for each state of a player. -/
def takens (a : UInt32) (packets : List Packet) : List Nat :=
  packets.filterMap fun packet =>
    match packet with
    | .nodeState netid state => if netid = a then some state.taken else none
    | .nodeLeave _ => none

/-- **What a player has heard and is going to hear**: genuine states, of each
player in the order they were taken, and before those the host has not passed on. -/
structure Heard (been : UInt32 → List Vec) (sent : UInt32 → List NodeState) (p : Player)
    (pending : List Packet) : Prop where
  packets : ∀ netid state, .nodeState netid state ∈ pending →
    Genuine (been netid) state.position state.taken
  nodes : ∀ a node, p.nodes a = some node →
    Genuine (been a) node.target node.taken ∧ node.position ∈ hull (been a)
  order : ∀ a, ((p.nodes a).toList.map RemoteNode.taken ++ takens a pending ++
    (sent a).map NodeState.taken).Pairwise (· ≤ ·)
  snapshot : ∀ shown ∈ p.playersnapshot, shown.position ∈ hull (been shown.id)

/-- The places every player has been at. -/
def places (s : Players) (a : UInt32) : List Vec := (s a).been

/-- What of every player the host has not passed on. -/
def unrelayed (s : Players) (a : UInt32) : List NodeState := (s a).sent

/-- **Nothing is made up.** -/
structure Sound (s : Players) : Prop where
  box : ∀ a, (s a).been.getLast? = some (s a).localmultiplayerbox
  spawned : ∀ a, spawn ∈ (s a).been
  sent : ∀ a, ∀ state ∈ (s a).sent, Genuine (s a).been state.position state.taken
  heard : ∀ v, Heard (places s) (unrelayed s) (s v) ((s v).packetQueue ++ (s v).wire)

variable {s t : Players} {v a : UInt32} {p q : Player} {node : RemoteNode}
  {been been' : UInt32 → List Vec} {sent sent' : UInt32 → List NodeState} {pending : List Packet}
  {timers : UInt32 → GameBackend.Clocks} {views : UInt32 → Vec}

/-! ## Lemmas about places -/

theorem Genuine.le_length {places : List Vec} {position : Vec} {taken : Nat}
    (h : Genuine places position taken) : taken ≤ places.length := by
  obtain ⟨hlt, -⟩ := List.getElem?_eq_some_iff.mp h.2
  omega

theorem Genuine.mem {places : List Vec} {position : Vec} {taken : Nat}
    (h : Genuine places position taken) : position ∈ hull places :=
  subset_convexHull ℚ _ (List.mem_of_getElem? h.2)

/-- Places are only added. -/
theorem Genuine.mono {before after : List Vec} {position : Vec} {taken : Nat}
    (h : Genuine before position taken) (hgrows : before <+: after) :
    Genuine after position taken := by
  obtain ⟨more, rfl⟩ := hgrows
  have hlength := h.le_length
  refine ⟨h.1, ?_⟩
  rw [List.getElem?_append_left (by have := h.1; omega)]
  exact h.2

theorem hull_mono {before after : List Vec} (h : before <+: after) : hull before ⊆ hull after :=
  convexHull_mono fun _ hplace => h.subset hplace

@[simp] theorem takens_nil (a : UInt32) : takens a [] = [] := rfl

@[simp] theorem takens_nodeLeave (a netid : UInt32) (rest : List Packet) :
    takens a (.nodeLeave netid :: rest) = takens a rest := rfl

theorem takens_nodeState (a netid : UInt32) (state : NodeState) (rest : List Packet) :
    takens a (.nodeState netid state :: rest) =
      if netid = a then state.taken :: takens a rest else takens a rest := by
  unfold takens
  rw [List.filterMap_cons]
  dsimp only
  by_cases heq : netid = a
  · simp only [if_pos heq]
  · simp only [if_neg heq]

theorem takens_append (a : UInt32) (first rest : List Packet) :
    takens a (first ++ rest) = takens a first ++ takens a rest := List.filterMap_append

/-! ## What may change -/

/-- What has been heard stays genuine. -/
theorem Heard.mono (h : Heard been sent p pending) (hgrows : ∀ a, been a <+: been' a) :
    Heard been' sent p pending where
  packets netid state hmem := (h.packets netid state hmem).mono (hgrows netid)
  nodes a node hnode :=
    ⟨(h.nodes a node hnode).1.mono (hgrows a), hull_mono (hgrows a) (h.nodes a node hnode).2⟩
  order := h.order
  snapshot shown hshown := hull_mono (hgrows shown.id) (h.snapshot shown hshown)

/-- States may be lost on their way to the host. -/
theorem Heard.lose (h : Heard been sent p pending) (hsent : ∀ a, (sent' a).Sublist (sent a)) :
    Heard been sent' p pending where
  packets := h.packets
  nodes := h.nodes
  order a := (h.order a).sublist (((hsent a).map _).append_left _)
  snapshot := h.snapshot

/-- Nodes may be dropped, and something else be shown of them. -/
theorem Heard.part (h : Heard been sent p pending)
    (hnodes : ∀ a, q.nodes a = p.nodes a ∨ q.nodes a = none)
    (hsnapshot : ∀ shown ∈ q.playersnapshot, shown.position ∈ hull (been shown.id)) :
    Heard been sent q pending where
  packets := h.packets
  nodes a node hnode := by
    rcases hnodes a with heq | hnone
    · exact h.nodes a node (heq ▸ hnode)
    · cases hnone.symm.trans hnode
  order a := by
    rcases hnodes a with heq | hnone
    · rw [heq]
      exact h.order a
    · rw [hnone]
      exact (h.order a).sublist ((List.sublist_append_right _ _).append_right _)
  snapshot := hsnapshot

/-- The rest of a player does not matter. -/
theorem Heard.same (h : Heard been sent p pending) (hnodes : q.nodes = p.nodes)
    (hsnapshot : q.playersnapshot = p.playersnapshot) : Heard been sent q pending :=
  h.part (fun a => .inl (congrFun hnodes a)) (by rw [hsnapshot]; exact h.snapshot)

/-- Packets may be lost. -/
theorem Heard.thin {rest : List Packet} (h : Heard been sent p pending)
    (hrest : rest.Sublist pending) : Heard been sent p rest where
  packets netid state hmem := h.packets netid state (hrest.subset hmem)
  nodes := h.nodes
  order a := (h.order a).sublist (((hrest.filterMap _).append_left _).append_right _)
  snapshot := h.snapshot

/-- It is told that a player has left. -/
theorem Heard.leave (h : Heard been sent p pending) (netid : UInt32) :
    Heard been sent p (pending ++ [.nodeLeave netid]) where
  packets other state hmem := by
    rcases List.mem_append.mp hmem with hold | hlast
    · exact h.packets other state hold
    · cases List.mem_singleton.mp hlast
  nodes := h.nodes
  order a := by
    rw [takens_append]
    exact (List.append_nil (takens a pending)).symm ▸ h.order a
  snapshot := h.snapshot

/-- The host passes a state on. -/
theorem Heard.relay {state : NodeState} {rest : List NodeState} (h : Heard been sent p pending)
    (hsent : sent a = state :: rest) (hgenuine : Genuine (been a) state.position state.taken) :
    Heard been (Function.update sent a rest) p (pending ++ [.nodeState a state]) where
  packets netid other hmem := by
    rcases List.mem_append.mp hmem with hold | hlast
    · exact h.packets netid other hold
    · cases List.mem_singleton.mp hlast
      exact hgenuine
  nodes := h.nodes
  order b := by
    have horder := h.order b
    rw [takens_append, takens_nodeState]
    by_cases heq : b = a
    · subst heq
      rw [hsent] at horder
      rw [Function.update_self, if_pos rfl]
      simpa using horder
    · rw [Function.update_of_ne heq, if_neg (Ne.symm heq)]
      simpa using horder
  snapshot := h.snapshot

/-- What has been heard of a player was taken before. -/
theorem Heard.le_length (h : Heard been sent p pending)
    (hsent : ∀ state ∈ sent a, Genuine (been a) state.position state.taken) {taken : Nat}
    (hmem : taken ∈ (p.nodes a).toList.map RemoteNode.taken ++ takens a pending ++
      (sent a).map NodeState.taken) : taken ≤ (been a).length := by
  rcases List.mem_append.mp hmem with hheard | hunrelayed
  · rcases List.mem_append.mp hheard with htaken | hpending
    · obtain ⟨node, hnode, rfl⟩ := List.mem_map.mp htaken
      exact (h.nodes a node (Option.mem_toList.mp hnode)).1.le_length
    · obtain ⟨packet, hpacket, hstate⟩ := List.mem_filterMap.mp hpending
      cases packet with
      | nodeLeave netid => cases hstate
      | nodeState netid state =>
          dsimp only at hstate
          split_ifs at hstate with hsame
          subst hsame
          obtain rfl := Option.some.inj hstate
          exact (h.packets netid state hpacket).le_length
  · obtain ⟨state, hstate, rfl⟩ := List.mem_map.mp hunrelayed
    exact (hsent state hstate).le_length

/-- A player sends the last of its places. -/
theorem Heard.send {state : NodeState} (h : Heard been sent p pending)
    (hsent : ∀ state ∈ sent a, Genuine (been a) state.position state.taken)
    (htaken : state.taken = (been a).length) :
    Heard been (Function.update sent a (sent a ++ [state])) p pending where
  packets := h.packets
  nodes := h.nodes
  order b := by
    by_cases heq : b = a
    · subst heq
      rw [Function.update_self, List.map_append, ← List.append_assoc, List.pairwise_append]
      refine ⟨h.order b, List.pairwise_singleton _ _, fun taken hmem last hlast => ?_⟩
      obtain rfl := List.mem_singleton.mp hlast
      rw [htaken]
      exact h.le_length hsent hmem
    · rw [Function.update_of_ne heq]
      exact h.order b
  snapshot := h.snapshot

/-! ## Receiving -/

/-- A node takes over a state. -/
theorem Heard.hear {netid : UInt32} {state : NodeState}
    (h : Heard been sent p (.nodeState netid state :: pending))
    (hposition : node.position ∈ hull (been netid)) :
    Heard been sent (p.setNode netid (some (node.hear state))) pending where
  packets := (h.thin (List.sublist_cons_self _ _)).packets
  nodes a other hother := by
    dsimp only [Player.setNode] at hother
    split_ifs at hother with heq
    · subst heq
      obtain rfl := Option.some.inj hother
      exact ⟨h.packets a state List.mem_cons_self, hposition⟩
    · exact h.nodes a other hother
  order a := by
    have horder := h.order a
    rw [takens_nodeState] at horder
    dsimp only [Player.setNode]
    by_cases heq : a = netid
    · subst heq
      rw [if_pos rfl] at horder
      rw [if_pos rfl]
      exact horder.sublist ((List.sublist_append_right _ _).append_right _)
    · rw [if_neg (Ne.symm heq)] at horder
      rwa [if_neg heq]
  snapshot := h.snapshot

/-- A node is dropped. -/
theorem Heard.drop (h : Heard been sent p pending) (netid : UInt32) :
    Heard been sent (p.setNode netid none) pending := by
  refine h.part (fun a => ?_) h.snapshot
  dsimp only [Player.setNode]
  split_ifs
  · exact .inr rfl
  · exact .inl rfl

/-- **What a packet does to a player**: nothing, or it moves a target, adds a node
or drops one. -/
inductive Received (localId : UInt32) (p : Player) : Packet → Player → Prop
  | ignored (packet : Packet) : Received localId p packet p
  | heard (netid : UInt32) (state : NodeState) {node : RemoteNode}
      (hnode : p.nodes netid = some node) :
      Received localId p (.nodeState netid state) (p.setNode netid (some (node.hear state)))
  | joined (netid : UInt32) (state : NodeState) (hnew : p.nodes netid = none) :
      Received localId p (.nodeState netid state)
        { p.setNode netid (some (RemoteNode.hear {} state)) with
          remotemultiplayerboxes := p.remotemultiplayerboxes ++ [netid] }
  | left (netid : UInt32) :
      Received localId p (.nodeLeave netid)
        { p.setNode netid none with
          attached := p.attached && netid ≠ localId
          remotemultiplayerboxes := p.remotemultiplayerboxes.filter (· ≠ netid) }

theorem receive_received (localId : UInt32) (p : Player) (packet : Packet) :
    Received localId p packet (p.receive localId packet) := by
  cases packet with
  | nodeState netid state =>
      unfold Player.receive
      dsimp only
      by_cases hlocal : netid = localId
      · rw [if_pos hlocal]
        exact .ignored _
      · rw [if_neg hlocal]
        split
        · next node hnode => exact .heard netid state hnode
        · next hnew =>
            split_ifs
            · exact .joined netid state hnew
            · exact .ignored _
  | nodeLeave netid =>
      unfold Player.receive
      dsimp only
      split_ifs
      · exact .left netid
      · exact .ignored _

/-- **A packet is received.** -/
theorem Heard.receive {localId : UInt32} {packet : Packet}
    (h : Heard been sent p (packet :: pending)) (hspawned : ∀ a, spawn ∈ been a) :
    Heard been sent (p.receive localId packet) pending := by
  have hreceived := receive_received localId p packet
  have hskip : Heard been sent p pending := h.thin (List.sublist_cons_self _ _)
  generalize p.receive localId packet = q at hreceived
  cases hreceived with
  | ignored => exact hskip
  | heard netid state hnode => exact h.hear (h.nodes netid _ hnode).2
  | joined netid state hnew =>
      have hspawn : ({} : RemoteNode).position ∈ hull (been netid) :=
        subset_convexHull ℚ _ (hspawned netid)
      exact (h.hear hspawn).same rfl rfl
  | left netid => exact (hskip.drop netid).same rfl rfl

/-- All packets of a queue are received. -/
theorem Heard.receiveAll {localId : UInt32} {queue : List Packet}
    (h : Heard been sent p (queue ++ pending)) (hspawned : ∀ a, spawn ∈ been a) :
    Heard been sent (queue.foldl (Player.receive localId) p) pending := by
  induction queue generalizing p with
  | nil => exact h
  | cons packet queue ih => exact ih (h.receive hspawned)

/-- What receiving leaves alone. -/
structure Alike (p q : Player) : Prop where
  been : q.been = p.been
  box : q.localmultiplayerbox = p.localmultiplayerbox
  camera : q.camera = p.camera
  cameras : q.cameras = p.cameras
  packetQueue : q.packetQueue = p.packetQueue
  sent : q.sent = p.sent
  wire : q.wire = p.wire

theorem Alike.refl (p : Player) : Alike p p := ⟨rfl, rfl, rfl, rfl, rfl, rfl, rfl⟩

theorem Alike.trans {r : Player} (h : Alike p q) (h' : Alike q r) : Alike p r :=
  ⟨h'.been.trans h.been, h'.box.trans h.box, h'.camera.trans h.camera, h'.cameras.trans h.cameras,
    h'.packetQueue.trans h.packetQueue, h'.sent.trans h.sent, h'.wire.trans h.wire⟩

theorem receive_alike (localId : UInt32) (p : Player) (packet : Packet) :
    Alike p (p.receive localId packet) := by
  have hreceived := receive_received localId p packet
  generalize p.receive localId packet = q at hreceived ⊢
  cases hreceived <;> exact ⟨rfl, rfl, rfl, rfl, rfl, rfl, rfl⟩

theorem receiveAll_alike (localId : UInt32) (queue : List Packet) (p : Player) :
    Alike p (queue.foldl (Player.receive localId) p) := by
  induction queue generalizing p with
  | nil => exact Alike.refl p
  | cons packet queue ih => exact (receive_alike localId p packet).trans (ih _)

theorem drain_alike (localId : UInt32) (p : Player) :
    Alike { p with packetQueue := [] } (p.drain localId) :=
  receiveAll_alike localId p.packetQueue _

/-! ## One step -/

/-- What is published are the places of the nodes. -/
theorem Heard.publishSnapshot (h : Heard been sent p pending) :
    Heard been sent p.publishSnapshot pending := by
  refine h.part (fun _ => .inl rfl) fun shown hshown => ?_
  obtain ⟨id, -, hid⟩ := List.mem_filterMap.mp hshown
  obtain ⟨node, hnode, rfl⟩ := Option.map_eq_some_iff.mp hid
  exact (h.nodes id node hnode).2

theorem lerpFactor_mem {deltaTime : ℚ} (h : 0 ≤ deltaTime) :
    0 ≤ lerpFactor deltaTime ∧ lerpFactor deltaTime ≤ 1 := by
  unfold lerpFactor
  split_ifs with hlong
  · exact ⟨zero_le_one, le_rfl⟩
  · exact ⟨by linarith, not_lt.mp hlong⟩

/-- Nodes are eased. -/
theorem Heard.ease (h : Heard been sent p pending) {deltaTime : ℚ} (htime : 0 ≤ deltaTime)
    (hnodes : q.nodes = fun id => (p.nodes id).map (RemoteNode.ease deltaTime))
    (hsnapshot : q.playersnapshot = p.playersnapshot) : Heard been sent q pending where
  packets := h.packets
  nodes a node hnode := by
    rw [hnodes] at hnode
    obtain ⟨old, hold, rfl⟩ := Option.map_eq_some_iff.mp hnode
    obtain ⟨hgenuine, hposition⟩ := h.nodes a old hold
    obtain ⟨hnonneg, hle⟩ := lerpFactor_mem htime
    exact ⟨hgenuine, Easing.ease_mem (convex_convexHull ℚ _) hposition hgenuine.mem hnonneg hle⟩
  order a := by
    rw [hnodes, Option.toList_map, List.map_map]
    exact h.order a
  snapshot := by
    rw [hsnapshot]
    exact h.snapshot

/-- What a player has heard, after a frame of its backend. -/
theorem Heard.update (h : Heard been sent p (p.packetQueue ++ p.wire))
    (hspawned : ∀ a, spawn ∈ been a) (localId : UInt32) {deltaTime : ℚ} (htime : 0 ≤ deltaTime)
    (others tasks : Nat) : Heard been sent (p.update localId deltaTime others tasks) p.wire := by
  have hdrained : Heard been sent (p.drain localId) p.wire :=
    Heard.receiveAll (h.same (q := { p with packetQueue := [] }) rfl rfl) hspawned
  unfold Player.update Player.advance
  dsimp only
  by_cases hgoes : goesOn p.clocks (p.frame deltaTime others tasks) = true
  · rw [if_pos hgoes]
    by_cases hticks : 1 / 20 ≤ (p.drain localId).networkTimer + deltaTime
    · rw [if_pos hticks]
      exact hdrained.ease htime rfl rfl
    · rw [if_neg hticks]
      exact hdrained.ease htime rfl rfl
  · rw [if_neg hgoes]
    exact hdrained.same rfl rfl

/-- A player keeps what it has sent, loses it, or sends its last place. -/
def Sends (p q : Player) : Prop :=
  q.sent.Sublist p.sent ∨
    ∃ state : NodeState, state.position = q.localmultiplayerbox ∧ state.taken = q.been.length ∧
      q.sent = p.sent ++ [state]

/-- What a frame of the backend leaves alone, and what it sends. -/
theorem update_keeps (localId : UInt32) (p : Player) (deltaTime : ℚ) (others tasks : Nat) :
    Alike { p with packetQueue := [], sent := (p.update localId deltaTime others tasks).sent }
        (p.update localId deltaTime others tasks) ∧
      Sends p (p.update localId deltaTime others tasks) := by
  have hdrained := drain_alike localId p
  have hkept : ∀ {q : Player}, q.been = (p.drain localId).been →
      q.localmultiplayerbox = (p.drain localId).localmultiplayerbox →
      q.camera = (p.drain localId).camera → q.cameras = (p.drain localId).cameras →
      q.packetQueue = (p.drain localId).packetQueue → q.wire = (p.drain localId).wire →
      Alike { p with packetQueue := [], sent := q.sent } q :=
    fun hbeen hbox hcamera hcameras hqueue hwire =>
      ⟨hbeen.trans hdrained.been, hbox.trans hdrained.box, hcamera.trans hdrained.camera,
        hcameras.trans hdrained.cameras, hqueue.trans hdrained.packetQueue, rfl,
        hwire.trans hdrained.wire⟩
  have hsame : ∀ {q : Player}, q.sent = (p.drain localId).sent → Sends p q :=
    fun h => .inl (by rw [h, hdrained.sent])
  unfold Player.update Player.advance
  dsimp only
  by_cases hgoes : goesOn p.clocks (p.frame deltaTime others tasks) = true
  · rw [if_pos hgoes]
    by_cases hticks : 1 / 20 ≤ (p.drain localId).networkTimer + deltaTime
    · rw [if_pos hticks]
      refine ⟨hkept rfl rfl rfl rfl rfl rfl, ?_⟩
      by_cases hsends : (p.drain localId).attached = true ∧ (p.drain localId).connected = true
      · rw [if_pos hsends]
        exact .inr ⟨_, rfl, rfl, congrArg (· ++ [_]) hdrained.sent⟩
      · rw [if_neg hsends]
        exact hsame rfl
    · rw [if_neg hticks]
      exact ⟨hkept rfl rfl rfl rfl rfl rfl, hsame rfl⟩
  · rw [if_neg hgoes]
    exact ⟨hkept rfl rfl rfl rfl rfl rfl, hsame rfl⟩

theorem places_update (hgrows : (s a).been <+: q.been) (b : UInt32) :
    places s b <+: places (Function.update s a q) b := by
  unfold places
  by_cases heq : b = a
  · subst heq
    rwa [Function.update_self]
  · rw [Function.update_of_ne heq]

theorem unrelayed_update (s : Players) (a : UInt32) (q : Player) :
    unrelayed (Function.update s a q) = Function.update (unrelayed s) a q.sent :=
  funext fun b => by
    unfold unrelayed
    by_cases heq : b = a
    · subst heq
      rw [Function.update_self, Function.update_self]
    · rw [Function.update_of_ne heq, Function.update_of_ne heq]

/-- The last place of a box is genuine. -/
theorem genuine_last {places : List Vec} {position : Vec} (h : places.getLast? = some position) :
    Genuine places position places.length := by
  refine ⟨List.length_pos_iff.mpr fun hnil => ?_, List.getLast?_eq_getElem? ▸ h⟩
  rw [hnil] at h
  cases h

/-- **One player changes**: it may have been at more places, and have sent its
last. -/
theorem Sound.change (h : Sound s) (hgrows : (s a).been <+: q.been)
    (hbox : q.been.getLast? = some q.localmultiplayerbox) (hsends : Sends (s a) q)
    (hheard : ∀ {been : UInt32 → List Vec} {sent : UInt32 → List NodeState},
      (∀ b, spawn ∈ been b) → Heard been sent (s a) ((s a).packetQueue ++ (s a).wire) →
        Heard been sent q (q.packetQueue ++ q.wire)) :
    Sound (Function.update s a q) := by
  have hplaces := places_update hgrows
  have hgenuine : ∀ b, ∀ state ∈ unrelayed s b,
      Genuine (places (Function.update s a q) b) state.position state.taken :=
    fun b state hstate => (h.sent b state hstate).mono (hplaces b)
  have hbeen : places (Function.update s a q) a = q.been := by
    unfold places
    rw [Function.update_self]
  have hspawned : ∀ b, spawn ∈ places (Function.update s a q) b :=
    fun b => (hplaces b).subset (h.spawned b)
  have hothers : ∀ v, Heard (places (Function.update s a q)) (unrelayed (Function.update s a q))
      (s v) ((s v).packetQueue ++ (s v).wire) := by
    intro v
    have hmono := (h.heard v).mono hplaces
    rw [unrelayed_update]
    rcases hsends with hless | ⟨state, -, htaken, hmore⟩
    · refine hmono.lose fun b => ?_
      by_cases heq : b = a
      · subst heq
        rwa [Function.update_self]
      · rw [Function.update_of_ne heq]
    · rw [hmore]
      exact hmono.send (hgenuine a) (by rw [hbeen, htaken])
  refine ⟨fun b => ?_, hspawned, fun b state hstate => ?_, fun v => ?_⟩
  · by_cases heq : b = a
    · subst heq
      rwa [Function.update_self]
    · rw [Function.update_of_ne heq]
      exact h.box b
  · by_cases heq : b = a
    · subst heq
      rw [Function.update_self] at hstate
      rcases hsends with hless | ⟨last, hposition, htaken, hmore⟩
      · exact hgenuine b state (hless.subset hstate)
      · rw [hmore] at hstate
        rcases List.mem_append.mp hstate with hold | hlast
        · exact hgenuine b state hold
        · obtain rfl := List.mem_singleton.mp hlast
          rw [Function.update_self, hposition, htaken]
          exact genuine_last hbox
    · rw [Function.update_of_ne heq] at hstate
      exact hgenuine b state hstate
  · by_cases heq : v = a
    · subst heq
      rw [Function.update_self]
      exact hheard hspawned (hothers v)
    · rw [Function.update_of_ne heq]
      exact hothers v

/-- A box that is put somewhere has been there. -/
theorem place_grows (p : Player) (position : Vec) :
    p.been <+: (p.place position).been ∧
      (p.place position).been.getLast? = some (p.place position).localmultiplayerbox :=
  ⟨⟨[position], rfl⟩, List.getLast?_concat⟩

/-- A frame of the synchronizer. -/
theorem Sound.synchronize (h : Sound s) (a : UInt32) (deltaTime : ℚ) :
    Sound (Function.update s a ((s a).synchronize deltaTime)) := by
  unfold Player.synchronize
  dsimp only
  by_cases hfires : 1 / 20 ≤ (s a).networktimer + deltaTime
  · obtain ⟨hgrows, hbox⟩ := place_grows (s a) (boxOf (s a).camera)
    rw [if_pos hfires]
    refine h.change hgrows hbox (.inl (List.Sublist.refl _)) fun _ hheard =>
      Heard.publishSnapshot ?_
    exact hheard.same rfl rfl
  · rw [if_neg hfires]
    refine h.change List.prefix_rfl (h.box a) (.inl (List.Sublist.refl _)) fun _ hheard =>
      Heard.publishSnapshot ?_
    exact hheard.same rfl rfl

/-- A frame of the backend. -/
theorem Sound.update (h : Sound s) (a : UInt32) {deltaTime : ℚ} (htime : 0 ≤ deltaTime)
    (others tasks : Nat) : Sound (Function.update s a ((s a).update a deltaTime others tasks)) := by
  obtain ⟨hkept, hsends⟩ := update_keeps a (s a) deltaTime others tasks
  refine h.change (by rw [hkept.been]) (by rw [hkept.been, hkept.box]; exact h.box a) hsends
    fun hspawned hheard => ?_
  rw [hkept.packetQueue, hkept.wire]
  exact hheard.update hspawned a htime others tasks

/-- Passing a state on touches only what is on its way. -/
theorem relay_player (s : Players) (a : UInt32) (state : NodeState) (rest : List NodeState)
    (v : UInt32) : ∃ wire, (wire = (s v).wire ∨ wire = (s v).wire ++ [.nodeState a state]) ∧
      hand a state (Function.update s a { s a with sent := rest }) v =
        { s v with sent := Function.update (unrelayed s) a rest v, wire := wire } := by
  unfold hand
  by_cases heq : v = a
  · subst heq
    refine ⟨(s v).wire, .inl rfl, ?_⟩
    rw [if_neg (fun hne => hne.1 rfl), Function.update_self, Function.update_self]
  · rw [Function.update_of_ne heq, Function.update_of_ne heq]
    split_ifs
    · exact ⟨_, .inr rfl, rfl⟩
    · exact ⟨_, .inl rfl, rfl⟩

/-- **A state is passed on.** -/
theorem Sound.relay (h : Sound s) {state : NodeState} {rest : List NodeState}
    (hsent : (s a).sent = state :: rest) :
    Sound (hand a state (Function.update s a { s a with sent := rest })) := by
  have hgenuine := h.sent a state (hsent ▸ List.mem_cons_self)
  have hrelayed := relay_player s a state rest
  generalize hand a state (Function.update s a { s a with sent := rest }) = t at hrelayed ⊢
  have hbeen : ∀ v, (t v).been = (s v).been ∧
      (t v).localmultiplayerbox = (s v).localmultiplayerbox ∧
      (t v).sent = Function.update (unrelayed s) a rest v := by
    intro v
    obtain ⟨wire, -, ht⟩ := hrelayed v
    rw [ht]
    exact ⟨rfl, rfl, rfl⟩
  have hplaces : places t = places s := funext fun v => (hbeen v).1
  have hunrelayed : unrelayed t = Function.update (unrelayed s) a rest :=
    funext fun v => (hbeen v).2.2
  refine ⟨fun v => ?_, fun v => ?_, fun v other hother => ?_, fun v => ?_⟩
  · rw [(hbeen v).1, (hbeen v).2.1]
    exact h.box v
  · rw [(hbeen v).1]
    exact h.spawned v
  · rw [(hbeen v).1]
    rw [(hbeen v).2.2] at hother
    by_cases heq : v = a
    · subst heq
      rw [Function.update_self] at hother
      exact h.sent v other (hsent ▸ List.mem_cons_of_mem _ hother)
    · rw [Function.update_of_ne heq] at hother
      exact h.sent v other hother
  · have hheard := (h.heard v).relay hsent hgenuine
    obtain ⟨wire, hwire, ht⟩ := hrelayed v
    rw [hplaces, hunrelayed, ht]
    rw [List.append_assoc] at hheard
    rcases hwire with rfl | rfl
    · refine (hheard.thin ?_).same rfl rfl
      exact (List.sublist_append_left _ _).append_left _
    · exact hheard.same rfl rfl

/-- **One step.** -/
theorem Sound.step (h : Sound s) {action : Action} (hstep : step s action = some t) : Sound t := by
  have hkeeps : ∀ {p q : Player}, q.sent = p.sent → Sends p q :=
    fun hsent => .inl (by rw [hsent])
  cases action with
  | move a camera cameraYaw animState =>
      obtain rfl := Option.some.inj hstep
      exact h.change List.prefix_rfl (h.box a) (hkeeps rfl) fun _ hheard => hheard.same rfl rfl
  | setup a team =>
      obtain rfl := Option.some.inj hstep
      obtain ⟨hgrows, hbox⟩ := place_grows (s a) spawn
      exact h.change hgrows hbox (hkeeps rfl) fun _ hheard =>
        hheard.part (fun _ => .inl rfl) (by simp [Player.setup])
  | cleanup a =>
      obtain rfl := Option.some.inj hstep
      refine h.change List.prefix_rfl (h.box a) (hkeeps rfl) fun _ hheard =>
        hheard.part (fun b => ?_) (by simp [Player.cleanup])
      dsimp only [Player.cleanup]
      split_ifs
      · exact .inr rfl
      · exact .inl rfl
  | synchronize a deltaTime =>
      simp only [Motion.step] at hstep
      split_ifs at hstep
      obtain rfl := Option.some.inj hstep
      exact h.synchronize a deltaTime
  | update a deltaTime others tasks =>
      simp only [Motion.step] at hstep
      split_ifs at hstep with htime
      obtain rfl := Option.some.inj hstep
      exact h.update a htime others tasks
  | relay a =>
      simp only [Motion.step] at hstep
      split at hstep
      · cases hstep
      · next state rest hsent =>
          obtain rfl := Option.some.inj hstep
          exact h.relay hsent
  | arrive a =>
      simp only [Motion.step] at hstep
      split at hstep
      · cases hstep
      · next packet rest hwire =>
          obtain rfl := Option.some.inj hstep
          refine h.change List.prefix_rfl (h.box a) (hkeeps rfl) fun _ hheard => ?_
          rw [hwire] at hheard
          rw [List.append_assoc]
          exact hheard.same rfl rfl
  | connect a =>
      obtain rfl := Option.some.inj hstep
      exact h.change List.prefix_rfl (h.box a) (hkeeps rfl) fun _ hheard => hheard.same rfl rfl
  | disconnect a =>
      obtain rfl := Option.some.inj hstep
      refine h.change List.prefix_rfl (h.box a) (.inl (List.nil_sublist _)) fun _ hheard => ?_
      exact (hheard.thin ((List.nil_sublist _).append_left _)).same rfl rfl
  | leave a netid =>
      obtain rfl := Option.some.inj hstep
      refine h.change List.prefix_rfl (h.box a) (hkeeps rfl) fun _ hheard => ?_
      have hleave := hheard.leave netid
      rw [List.append_assoc] at hleave
      exact hleave.same rfl rfl

theorem sound_start (clocks : UInt32 → GameBackend.Clocks) (cameras : UInt32 → Vec) :
    Sound (start clocks cameras) where
  box _ := rfl
  spawned _ := List.mem_singleton_self _
  sent _ _ hstate := by cases hstate
  heard _ := ⟨fun _ _ hmem => (by cases hmem), fun _ _ hnode => (by cases hnode),
    fun _ => List.Pairwise.nil, fun _ hshown => (by cases hshown)⟩

theorem sound_reached (h : Exec.Reached step (start timers views) s) : Sound s :=
  h.invariant Sound (sound_start timers views) fun _ _ _ hs hstep => hs.step hstep

/-! ## Where players are shown -/

/-- No one has been anywhere but at the spawn and where its camera was. -/
def Sampled (p : Player) : Prop :=
  p.camera ∈ p.cameras ∧
    ∀ place ∈ p.been, place = spawn ∨ ∃ camera ∈ p.cameras, place = boxOf camera

/-- A box is put to the spawn or to its camera. -/
theorem Sampled.place (h : Sampled p) {position : Vec}
    (hposition : position = spawn ∨ position = boxOf p.camera) : Sampled (p.place position) := by
  refine ⟨h.1, fun place hplace => ?_⟩
  rcases List.mem_append.mp hplace with hold | hlast
  · exact h.2 place hold
  · obtain rfl := List.mem_singleton.mp hlast
    exact hposition.imp_right fun heq => ⟨p.camera, h.1, heq⟩

/-- **What a step does to where a player has been.** -/
theorem step_player {action : Action} (hstep : step s action = some t) (v : UInt32) :
    (s v).been <+: (t v).been ∧ (Sampled (s v) → Sampled (t v)) := by
  have hsame : ∀ {q : Player} {a : UInt32}, (s a).been <+: q.been → (Sampled (s a) → Sampled q) →
      (s v).been <+: (Function.update s a q v).been ∧
        (Sampled (s v) → Sampled (Function.update s a q v)) := by
    intro q a hgrows hsampled
    by_cases heq : v = a
    · subst heq
      rw [Function.update_self]
      exact ⟨hgrows, hsampled⟩
    · rw [Function.update_of_ne heq]
      exact ⟨List.prefix_rfl, id⟩
  cases action with
  | move a camera cameraYaw animState =>
      obtain rfl := Option.some.inj hstep
      refine hsame List.prefix_rfl fun hsampled => ⟨List.mem_concat_self, fun place hplace => ?_⟩
      exact (hsampled.2 place hplace).imp_right fun ⟨camera, hcamera, heq⟩ =>
        ⟨camera, List.mem_append_left _ hcamera, heq⟩
  | setup a team =>
      obtain rfl := Option.some.inj hstep
      exact hsame (place_grows (s a) spawn).1 fun hsampled => hsampled.place (.inl rfl)
  | cleanup a =>
      obtain rfl := Option.some.inj hstep
      exact hsame List.prefix_rfl id
  | synchronize a deltaTime =>
      simp only [Motion.step] at hstep
      split_ifs at hstep
      obtain rfl := Option.some.inj hstep
      unfold Player.synchronize
      dsimp only
      by_cases hfires : 1 / 20 ≤ (s a).networktimer + deltaTime
      · rw [if_pos hfires]
        exact hsame (place_grows (s a) _).1 fun hsampled => hsampled.place (.inr rfl)
      · rw [if_neg hfires]
        exact hsame List.prefix_rfl id
  | update a deltaTime others tasks =>
      simp only [Motion.step] at hstep
      split_ifs at hstep
      obtain rfl := Option.some.inj hstep
      obtain ⟨hkept, -⟩ := update_keeps a (s a) deltaTime others tasks
      refine hsame (by rw [hkept.been]) fun hsampled => ?_
      unfold Sampled
      rw [hkept.camera, hkept.cameras, hkept.been]
      exact hsampled
  | relay a =>
      simp only [Motion.step] at hstep
      split at hstep
      · cases hstep
      · obtain rfl := Option.some.inj hstep
        obtain ⟨wire, -, ht⟩ := relay_player s a _ _ v
        rw [ht]
        exact ⟨List.prefix_rfl, id⟩
  | arrive a =>
      simp only [Motion.step] at hstep
      split at hstep
      · cases hstep
      · obtain rfl := Option.some.inj hstep
        exact hsame List.prefix_rfl id
  | connect a =>
      obtain rfl := Option.some.inj hstep
      exact hsame List.prefix_rfl id
  | disconnect a =>
      obtain rfl := Option.some.inj hstep
      exact hsame List.prefix_rfl id
  | leave a netid =>
      obtain rfl := Option.some.inj hstep
      exact hsame List.prefix_rfl id

theorem sampled_reached (h : Exec.Reached step (start timers views) s) (v : UInt32) :
    Sampled (s v) := by
  refine h.invariant (fun s => Sampled (s v)) ⟨List.mem_singleton_self _, fun place hplace => ?_⟩
    fun _ _ _ hs hstep => (step_player hstep v).2 hs
  exact .inl (List.mem_singleton.mp hplace)

/-- **Nobody is shown where they have not been**: in every reached state the node
that stands for a player, and what is published of it, lies between the places the
player's own box was put to; and these are the spawn and places of its camera. -/
theorem shown_in_hull (hreached : Exec.Reached step (start timers views) s) (v : UInt32) :
    (∀ a node, (s v).nodes a = some node → node.position ∈ hull (s a).been) ∧
      (∀ shown ∈ (s v).playersnapshot, shown.position ∈ hull (s shown.id).been) ∧
      ∀ a, ∀ place ∈ (s a).been, place = spawn ∨ ∃ camera ∈ (s a).cameras, place = boxOf camera := by
  have hheard := (sound_reached hreached).heard v
  exact ⟨fun a node hnode => (hheard.nodes a node hnode).2, hheard.snapshot,
    fun a => (sampled_reached hreached a).2⟩

/-- Player two looks from somewhere else, and player one hears of it. -/
def approach : List Action :=
  [.connect 1, .connect 2, .setup 1 1, .setup 2 2, .move 2 (3, 1, 2) 1 1, .synchronize 2 (1 / 20),
    .update 2 (1 / 20) 0 0, .relay 2, .arrive 1, .update 1 (1 / 20) 0 0,
    .synchronize 1 (1 / 60)]

/-- All cameras are at one place first. -/
def startAt (camera : Vec) : Players := start (fun a => { isServer := a = 1 }) fun _ => camera

/-- Player one shows player two three quarters of the way there. -/
theorem shown_in_hull_approach : ∃ s,
    Exec.exec step (startAt (5, 5, 5)) approach = some s ∧
      ∃ shown ∈ (s 1).playersnapshot, shown.id = 2 ∧
        shown.position = (21 / 8, 109 / 160, 15 / 8) ∧
        (s 2).been = [spawn, spawn, boxOf (3, 1, 2)] ∧ shown.position ∈ hull (s 2).been := by
  have htest : (Exec.exec step (startAt (5, 5, 5)) approach).any (fun s =>
      (s 1).playersnapshot.any fun shown =>
        decide (shown.id = 2 ∧ shown.position = (21 / 8, 109 / 160, 15 / 8) ∧
          (s 2).been = [spawn, spawn, boxOf (3, 1, 2)])) = true := by
    decide +kernel
  obtain ⟨s, hs, htest⟩ := Exec.exec_any htest
  obtain ⟨shown, hshown, hvalue⟩ := List.any_eq_true.mp htest
  obtain ⟨hid, hposition, hbeen⟩ := of_decide_eq_true hvalue
  exact ⟨s, hs, shown, hshown, hid, hposition, hbeen,
    hid ▸ (shown_in_hull ⟨approach, hs⟩ 1).2.1 shown hshown⟩

/-! ## Standing still -/

/-- How far an action eases the nodes a player shows. -/
def eased (v : UInt32) (s : Players) : Action → List ℚ
  | .update b deltaTime others tasks =>
      if b = v ∧ goesOn (s v).clocks ((s v).frame deltaTime others tasks) then
        [lerpFactor deltaTime]
      else []
  | _ => []

/-- How far several do. -/
def easedAll (v : UInt32) : Players → List Action → List ℚ
  | _, [] => []
  | s, action :: actions =>
      eased v s action ++ ((step s action).map fun m => easedAll v m actions).getD []

/-- The node keeps being shown: nobody is told that its player has left, and its
own match goes on. -/
def Stays (v a : UInt32) (s : Players) : Action → Prop
  | .update b _ _ _ => b = v → .nodeLeave a ∉ (s v).packetQueue
  | .cleanup b => b ≠ v
  | _ => True

variable {c : Vec}

/-- A packet moves the target of a node at most. -/
theorem receive_node (localId : UInt32) {packet : Packet}
    (h : Heard been sent p (packet :: pending)) (hnode : p.nodes a = some node)
    (hstays : packet ≠ .nodeLeave a) :
    ∃ later, (p.receive localId packet).nodes a = some later ∧ later.position = node.position ∧
      node.taken ≤ later.taken := by
  have hreceived := receive_received localId p packet
  generalize p.receive localId packet = q at hreceived
  cases hreceived with
  | ignored => exact ⟨node, hnode, rfl, le_rfl⟩
  | @heard netid state old hold =>
      by_cases heq : a = netid
      · subst heq
        obtain rfl := Option.some.inj (hnode.symm.trans hold)
        refine ⟨node.hear state, if_pos rfl, rfl, ?_⟩
        -- What the node heard before is the first of what was taken.
        have horder := h.order a
        rw [hnode, takens_nodeState, if_pos rfl, Option.toList_some, List.map_singleton,
          List.append_assoc, List.singleton_append, List.pairwise_cons] at horder
        exact horder.1 state.taken (List.mem_append_left _ List.mem_cons_self)
      · exact ⟨node, (if_neg heq).trans hnode, rfl, le_rfl⟩
  | joined netid state hnew =>
      have hne : a ≠ netid := by
        rintro rfl
        cases hnode.symm.trans hnew
      exact ⟨node, (if_neg hne).trans hnode, rfl, le_rfl⟩
  | left netid =>
      have hne : a ≠ netid := fun heq => hstays (by rw [heq])
      exact ⟨node, (if_neg hne).trans hnode, rfl, le_rfl⟩

theorem receiveAll_node {localId : UInt32} {queue : List Packet}
    (h : Heard been sent p (queue ++ pending)) (hspawned : ∀ a, spawn ∈ been a)
    (hnode : p.nodes a = some node) (hstays : .nodeLeave a ∉ queue) :
    ∃ later, (queue.foldl (Player.receive localId) p).nodes a = some later ∧
      later.position = node.position ∧ node.taken ≤ later.taken := by
  induction queue generalizing p node with
  | nil => exact ⟨node, hnode, rfl, le_rfl⟩
  | cons packet queue ih =>
      rw [List.mem_cons, not_or] at hstays
      obtain ⟨next, hnext, hposition, htaken⟩ :=
        receive_node localId h hnode (Ne.symm hstays.1)
      obtain ⟨later, hlater, hsame, hle⟩ := ih (h.receive hspawned) hnext hstays.2
      exact ⟨later, hlater, hsame.trans hposition, htaken.trans hle⟩

/-- The target of a node, when its player has stood still since. -/
theorem Heard.target (h : Heard been sent p pending) (hnode : p.nodes a = some node) {taken : Nat}
    (htaken : taken ≤ node.taken) (hstands : ∀ place ∈ (been a).drop (taken - 1), place = c) :
    node.target = c := by
  obtain ⟨hpos, hplace⟩ := (h.nodes a node hnode).1
  refine hstands _ (List.mem_of_getElem? (i := node.taken - 1 - (taken - 1)) ?_)
  rw [List.getElem?_drop, Nat.add_sub_cancel' (by omega)]
  exact hplace

/-- **A frame of the backend**: what is left is eased. -/
theorem update_node (h : Heard been sent p (p.packetQueue ++ p.wire))
    (hspawned : ∀ a, spawn ∈ been a) (hnode : p.nodes a = some node)
    (hstays : .nodeLeave a ∉ p.packetQueue)
    (hstands : ∀ place ∈ (been a).drop (node.taken - 1), place = c) (localId : UInt32)
    (deltaTime : ℚ) (others tasks : Nat) :
    ∃ later, (p.update localId deltaTime others tasks).nodes a = some later ∧
      node.taken ≤ later.taken ∧ later.position = Easing.easeAll c node.position
        (if goesOn p.clocks (p.frame deltaTime others tasks) then [lerpFactor deltaTime]
          else [] : List ℚ) := by
  have hqueue := h.same (q := { p with packetQueue := [] }) rfl rfl
  have hdrained : Heard been sent (p.drain localId) p.wire := hqueue.receiveAll hspawned
  obtain ⟨later, hlater, hposition, htaken⟩ :
      ∃ later, (p.drain localId).nodes a = some later ∧ later.position = node.position ∧
        node.taken ≤ later.taken := receiveAll_node hqueue hspawned hnode hstays
  have htarget : later.target = c := hdrained.target hlater htaken hstands
  unfold Player.update Player.advance
  dsimp only
  by_cases hgoes : goesOn p.clocks (p.frame deltaTime others tasks) = true
  · have heased : ((p.drain localId).nodes a).map (RemoteNode.ease deltaTime) =
        some (later.ease deltaTime) := by rw [hlater, Option.map_some]
    have hplaced : (later.ease deltaTime).position =
        Easing.easeAll c node.position [lerpFactor deltaTime] := by
      rw [← htarget, ← hposition]
      rfl
    rw [if_pos hgoes, if_pos hgoes]
    split_ifs <;> exact ⟨_, heased, htaken, hplaced⟩
  · rw [if_neg hgoes, if_neg hgoes]
    exact ⟨later, hlater, htaken, hposition⟩

/-- **One step**: the node stays, and is eased toward where its player stands. -/
theorem step_node (h : Sound s) {action : Action} (hstep : step s action = some t)
    (hbeen : ∀ b, places s b <+: been b) (hnode : (s v).nodes a = some node)
    (hstays : Stays v a s action)
    (hstands : ∀ place ∈ (been a).drop (node.taken - 1), place = c) :
    ∃ later, (t v).nodes a = some later ∧ node.taken ≤ later.taken ∧
      later.position = Easing.easeAll c node.position (eased v s action) := by
  have hsame : ∀ {q : Player} {b : UInt32}, q.nodes = (s b).nodes →
      ∃ later, (Function.update s b q v).nodes a = some later ∧ node.taken ≤ later.taken ∧
        later.position = Easing.easeAll c node.position ([] : List ℚ) := by
    intro q b hnodes
    refine ⟨node, ?_, le_rfl, rfl⟩
    by_cases heq : v = b
    · subst heq
      rw [Function.update_self, hnodes, hnode]
    · rw [Function.update_of_ne heq, hnode]
  cases action with
  | move b camera cameraYaw animState =>
      obtain rfl := Option.some.inj hstep
      exact hsame rfl
  | setup b team =>
      obtain rfl := Option.some.inj hstep
      exact hsame rfl
  | cleanup b =>
      obtain rfl := Option.some.inj hstep
      exact ⟨node, (congrArg (·.nodes a) (Function.update_of_ne (Ne.symm hstays) _ s)).trans hnode,
        le_rfl, rfl⟩
  | synchronize b deltaTime =>
      simp only [Motion.step] at hstep
      split_ifs at hstep
      obtain rfl := Option.some.inj hstep
      refine hsame ?_
      unfold Player.synchronize
      dsimp only
      split_ifs <;> rfl
  | update b deltaTime others tasks =>
      simp only [Motion.step] at hstep
      split_ifs at hstep
      obtain rfl := Option.some.inj hstep
      unfold eased
      by_cases heq : b = v
      · subst heq
        have hheard := (h.heard b).mono hbeen
        have hspawned : ∀ a, spawn ∈ been a := fun a => (hbeen a).subset (h.spawned a)
        rw [Function.update_self]
        simp only [true_and]
        exact update_node hheard hspawned hnode (hstays rfl) hstands b deltaTime others tasks
      · refine ⟨node, ?_, le_rfl, ?_⟩
        · rw [Function.update_of_ne (Ne.symm heq), hnode]
        · dsimp only
          rw [if_neg fun hboth => heq hboth.1]
          rfl
  | relay b =>
      simp only [Motion.step] at hstep
      split at hstep
      · cases hstep
      · obtain rfl := Option.some.inj hstep
        obtain ⟨wire, -, ht⟩ := relay_player s b _ _ v
        rw [ht]
        exact ⟨node, hnode, le_rfl, rfl⟩
  | arrive b =>
      simp only [Motion.step] at hstep
      split at hstep
      · cases hstep
      · obtain rfl := Option.some.inj hstep
        exact hsame rfl
  | connect b =>
      obtain rfl := Option.some.inj hstep
      exact hsame rfl
  | disconnect b =>
      obtain rfl := Option.some.inj hstep
      exact hsame rfl
  | leave b netid =>
      obtain rfl := Option.some.inj hstep
      exact hsame rfl

/-- Places are only added in a run. -/
theorem run_places {actions : List Action} (hrun : Exec.exec step s actions = some t)
    (b : UInt32) : places s b <+: places t b :=
  Exec.Reached.invariant ⟨actions, hrun⟩ (fun m => places s b <+: places m b) List.prefix_rfl
    fun _ _ _ hm hstep => hm.trans (step_player hstep b).1

/-- **A run.** -/
theorem run_node (h : Sound s) {actions : List Action}
    (hrun : Exec.exec step s actions = some t) (hnode : (s v).nodes a = some node)
    (hstays : Exec.Along step (Stays v a) s actions)
    (hstands : ∀ place ∈ (places t a).drop (node.taken - 1), place = c) :
    ∃ later, (t v).nodes a = some later ∧ node.taken ≤ later.taken ∧
      later.position = Easing.easeAll c node.position (easedAll v s actions) := by
  induction actions generalizing s node with
  | nil =>
      obtain rfl := Option.some.inj hrun
      exact ⟨node, hnode, le_rfl, rfl⟩
  | cons action actions ih =>
      obtain ⟨m, hm, hrest⟩ := Exec.exec_cons_some hrun
      obtain ⟨next, hnext, htaken, hposition⟩ :=
        step_node h hm (run_places hrun) hnode hstays.1 hstands
      have hdrop : ∀ place ∈ (places t a).drop (next.taken - 1), place = c := by
        refine fun place hplace => hstands place ?_
        exact (List.drop_sublist_drop_left _ (Nat.sub_le_sub_right htaken 1)).subset hplace
      obtain ⟨later, hlater, hle, hsame⟩ := ih (h.step hm) hrest hnext (hstays.2 m hm) hdrop
      refine ⟨later, hlater, htaken.trans hle, ?_⟩
      rw [hsame, hposition, easedAll, hm, Option.map_some, Option.getD_some, Easing.easeAll,
        Easing.easeAll, Easing.easeAll, List.foldl_append]

/-- **A player is shown where it stands**: when all its places since the one the
node has for its target are the same, then a run multiplies the distance to that
place by what its frames leave, whatever is still under way.  A frame that stalls,
or in which the viewer gives the host up, leaves everything; of the others, one of
a fifteenth of a second or more leaves nothing. -/
theorem shown_settles {actions : List Action}
    (hreached : Exec.Reached step (start timers views) s) (hnode : (s v).nodes a = some node)
    (hrun : Exec.exec step s actions = some t) (hstays : Exec.Along step (Stays v a) s actions)
    (hstands : ∀ place ∈ (t a).been.drop (node.taken - 1), place = c) :
    ∃ later, (t v).nodes a = some later ∧ later.target = c ∧
      later.position - c = Easing.remaining (easedAll v s actions) • (node.position - c) ∧
      (1 ∈ easedAll v s actions → later.position = c) := by
  have hsound := sound_reached hreached
  obtain ⟨later, hlater, htaken, hposition⟩ := run_node hsound hrun hnode hstays hstands
  have hend : Sound t := Exec.exec_invariant (fun _ _ _ hs hstep => hs.step hstep) hsound hrun
  have hleft := Easing.easeAll_sub c node.position (easedAll v s actions)
  rw [← hposition] at hleft
  refine ⟨later, hlater, (hend.heard v).target hlater htaken hstands, hleft, fun hwhole => ?_⟩
  rw [Easing.remaining_eq_zero hwhole, zero_smul] at hleft
  exact sub_eq_zero.mp hleft

instance (v a : UInt32) (s : Players) : (action : Action) → Decidable (Stays v a s action)
  | .update b _ _ _ => inferInstanceAs (Decidable (b = v → .nodeLeave a ∉ (s v).packetQueue))
  | .cleanup b => inferInstanceAs (Decidable (b ≠ v))
  | .move .. | .setup .. | .synchronize .. | .relay .. | .arrive .. | .connect .. | .disconnect ..
  | .leave .. => .isTrue trivial

/-- Player two goes on to stand there. -/
def stand : List Action :=
  [.update 1 (1 / 30) 0 0, .synchronize 2 (1 / 20), .update 2 (1 / 20) 0 0, .relay 2, .arrive 1,
    .update 1 (1 / 2) 0 0, .update 1 (1 / 30) 0 0]

/-- Two frames of a thirtieth of a second leave a quarter of the way, and the one
that stalls between them all of it. -/
theorem shown_settles_stand : ∃ s node t later,
    Exec.exec step (startAt (5, 5, 5)) approach = some s ∧
      (s 1).nodes 2 = some node ∧ Exec.exec step s stand = some t ∧ (t 1).nodes 2 = some later ∧
      later.target = (3, 33 / 40, 2) ∧
      later.position - (3, 33 / 40, 2) = (1 / 4 : ℚ) • (node.position - (3, 33 / 40, 2)) := by
  have htest : (Exec.exec step (startAt (5, 5, 5)) approach).any (fun s =>
      ((s 1).nodes 2).any fun node => (Exec.exec step s stand).any fun t =>
        decide (Exec.Along step (Stays 1 2) s stand ∧
          (∀ place ∈ (t 2).been.drop (node.taken - 1), place = (3, 33 / 40, 2)) ∧
          Easing.remaining (easedAll 1 s stand) = 1 / 4)) = true := by decide +kernel
  obtain ⟨s, hs, htest⟩ := Exec.exec_any htest
  obtain ⟨node, hnode, htest⟩ := (Option.any_eq_true _ _).mp htest
  obtain ⟨t, ht, htest⟩ := Exec.exec_any htest
  obtain ⟨hstays, hstands, hleft⟩ := of_decide_eq_true htest
  obtain ⟨later, hlater, htarget, hposition, -⟩ :=
    shown_settles ⟨approach, hs⟩ hnode ht hstays hstands
  exact ⟨s, node, t, later, hs, hnode, ht, hlater, htarget, hleft ▸ hposition⟩

end Motion
