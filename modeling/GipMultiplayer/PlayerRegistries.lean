import GipMultiplayer.Exec
import GipMultiplayer.PlayerNodes

/-!
# The two player registries agree

The backend's remote nodes and the synchronizer's boxes, over any order of
`setup`, `cleanup`, state packets and leave packets on one backend.  They come
apart when `setup` drops the boxes of players whose nodes stay attached: such a
player is known to the backend, so no callback brings its box back.  A team
goes wrong on first sight only, when the packet carries the team `0` every
fresh node has, since a callback is made for a change of team.

* `Agree` — the law;
* `Fresh` — the condition on each event;
* `registries_agree` — the law in every run under the condition;
* `agree_iff` — each event that breaks the condition breaks the law.
-/

namespace Players

open Lobby (RoomPlayerInfo NodeState)

/-! ## The system -/

/-- One peer of a match: its registries, its room, and the team carried by the
last state packet of each player. -/
structure Peer where
  registries : Registries := {}
  roomPlayers : List RoomPlayerInfo := []
  heard : AList (fun _ : UInt32 => UInt8) := ∅

/-- What happens to a peer; `room` is any packet that changes its room. -/
inductive Event
  | setup
  | cleanup
  | nodeState (netid : UInt32) (state : NodeState)
  | nodeLeave (netid : UInt32)
  | room (roomPlayers : List RoomPlayerInfo)

/-- One event on the peer whose own id is `localId`. -/
def step (localId : UInt32) (s : Peer) : Event → Option Peer
  | .setup => some { s with registries := setup localId s.roomPlayers s.registries }
  | .cleanup => some { s with registries := cleanup localId s.registries }
  | .nodeState netid state => some { s with
      registries := receiveNodeState localId s.roomPlayers s.registries netid state
      heard := s.heard.insert netid state.team }
  | .nodeLeave netid => some { s with
      registries := receiveNodeLeave s.registries netid
      roomPlayers := s.roomPlayers.eraseP (·.id == netid) }
  | .room roomPlayers => some { s with roomPlayers := roomPlayers }

/-- A new backend; the synchronizer may have boxes from an earlier one. -/
def start (boxes : AList (fun _ : UInt32 => Unit)) (teams : AList (fun _ : UInt32 => UInt8)) :
    Peer :=
  { registries := { remotemultiplayerboxes := boxes, remoteteams := teams } }

/-! ## The law -/

/-- The backend has a remote node under the id. -/
def Remote (r : Registries) (id : UInt32) : Prop :=
  ∃ node ∈ r.nodes.lookup id, node.isLocal = false

instance (r : Registries) (id : UInt32) : Decidable (Remote r id) :=
  inferInstanceAs (Decidable (∃ node ∈ r.nodes.lookup id, _))

/-- **The registries agree**: once `setup` has run, the remote nodes are the
boxes, and each has the team its last state packet carried. -/
structure Agree (s : Peer) : Prop where
  keys : s.registries.callbacks = true →
    ∀ id, Remote s.registries id ↔ id ∈ s.registries.remotemultiplayerboxes
  teams : s.registries.callbacks = true → ∀ id, Remote s.registries id →
    ∃ team, s.heard.lookup id = some team ∧ s.registries.remoteteams.lookup id = some team

/-- **The condition of the law**: `setup` finds no remote node attached, and a
player is not first seen on team `0` while its room entry has another. -/
def Fresh (localId : UInt32) (s : Peer) : Event → Prop
  | .setup => ∀ item ∈ s.registries.nodes.entries, item.2.isLocal = true
  | .nodeState netid state =>
      s.registries.callbacks = true → s.registries.nodes.lookup netid = none →
        netid ≠ localId → state.team = 0 → joinedTeam s.roomPlayers netid = 0
  | _ => True

instance (localId : UInt32) (s : Peer) : (e : Event) → Decidable (Fresh localId s e)
  | .setup => inferInstanceAs (Decidable (∀ item ∈ s.registries.nodes.entries, _))
  | .nodeState _ _ => inferInstanceAs (Decidable (_ → _ → _ → _ → _))
  | .cleanup | .nodeLeave _ | .room _ => .isTrue trivial

/-! ## What one state packet does -/

variable {localId : UInt32} {s t : Peer}

/-- A node the registry has takes over the packet, and a change of team is
announced. -/
theorem receiveNodeState_known {room : List RoomPlayerInfo} {r : Registries} {netid : UInt32}
    {node : NetNode} (state : NodeState) (h : r.nodes.lookup netid = some node)
    (hremote : node.isLocal = false) :
    receiveNodeState localId room r netid state =
      { r with
        nodes := r.nodes.insert netid (node.target state)
        remoteteams :=
          if node.team ≠ state.team ∧ r.callbacks then r.remoteteams.insert netid state.team
          else r.remoteteams } := by
  have hjoin : announceJoin localId room r netid = r := by
    rw [announceJoin, h]
    exact if_neg (by simp)
  unfold receiveNodeState
  dsimp only
  rw [hjoin, h]
  dsimp only
  rw [hremote, if_neg Bool.false_ne_true]
  split_ifs
  · rfl
  · rfl

/-- A player seen for the first time gets a node, a box and a team. -/
theorem receiveNodeState_first {room : List RoomPlayerInfo} {r : Registries} {netid : UInt32}
    (state : NodeState) (h : r.nodes.lookup netid = none) (hcallbacks : r.callbacks = true)
    (hother : netid ≠ localId) :
    let s := receiveNodeState localId room r netid state
    (∃ node, node.isLocal = false ∧ node.team = state.team ∧
        s.nodes.lookup netid = some node ∧
        ∀ id, id ≠ netid → s.nodes.lookup id = r.nodes.lookup id) ∧
      s.remotemultiplayerboxes = r.remotemultiplayerboxes.insert netid () ∧
      s.callbacks = true ∧
      s.remoteteams.lookup netid =
        some (if state.team = 0 then joinedTeam room netid else state.team) ∧
      ∀ id, id ≠ netid → s.remoteteams.lookup id = r.remoteteams.lookup id := by
  have hjoin : announceJoin localId room r netid = onJoin localId room r netid := by
    rw [announceJoin, h]
    exact if_pos ⟨rfl, hcallbacks⟩
  unfold receiveNodeState
  dsimp only
  rw [hjoin, onJoin, if_neg hother, attachNode]
  dsimp only
  rw [AList.lookup_insert]
  dsimp only
  rw [if_neg Bool.false_ne_true, hcallbacks]
  have hlookup : ∀ (m : AList fun _ : UInt32 => UInt8) (x y : UInt8) (id : UInt32), id ≠ netid →
      ((m.insert netid x).insert netid y).lookup id = m.lookup id := by
    intro m x y id hid
    rw [AList.lookup_insert_ne hid, AList.lookup_insert_ne hid]
  by_cases hzero : state.team = 0
  · rw [if_neg (by simp [hzero]), if_pos hzero]
    refine ⟨⟨_, rfl, rfl, AList.lookup_insert _, fun id hid => ?_⟩, rfl, rfl,
      AList.lookup_insert _, fun id hid => AList.lookup_insert_ne hid⟩
    rw [AList.lookup_insert_ne hid, AList.lookup_insert_ne hid]
  · rw [if_pos ⟨fun h => hzero h.symm, rfl⟩, if_neg hzero]
    refine ⟨⟨_, rfl, rfl, AList.lookup_insert _, fun id hid => ?_⟩, rfl, rfl,
      AList.lookup_insert _, fun id hid => hlookup _ _ _ id hid⟩
    show ((r.nodes.insert netid _).insert netid _).lookup id = _
    rw [AList.lookup_insert_ne hid, AList.lookup_insert_ne hid]

/-- Every other state packet changes nothing: there is no callback yet, or it
is about the peer's own player. -/
theorem receiveNodeState_ignored {room : List RoomPlayerInfo} {r : Registries} {netid : UInt32}
    (state : NodeState) (h : ∀ node ∈ r.nodes.lookup netid, node.isLocal = true)
    (hnew : r.nodes.lookup netid = none → r.callbacks = false ∨ netid = localId) :
    receiveNodeState localId room r netid state = r := by
  have hjoin : announceJoin localId room r netid = r := by
    unfold announceJoin onJoin
    split_ifs with hannounced hown
    · rfl
    · rcases hnew (Option.isNone_iff_eq_none.mp hannounced.1) with hoff | hown'
      · rw [hannounced.2] at hoff
        cases hoff
      · exact absurd hown' hown
    · rfl
  unfold receiveNodeState
  dsimp only
  rw [hjoin]
  cases hnode : r.nodes.lookup netid with
  | none => rfl
  | some node =>
      dsimp only
      rw [if_pos (h node hnode)]

/-! ## The invariant -/

/-- **The invariant**: no callback, no node; afterwards remote nodes and boxes
have one set of keys, a remote node, its team and the last packet agree, and
the peer's own node is local. -/
structure Agreed (localId : UInt32) (s : Peer) : Prop where
  empty : s.registries.callbacks = false → ∀ id, s.registries.nodes.lookup id = none
  keys : s.registries.callbacks = true →
    ∀ id, Remote s.registries id ↔ id ∈ s.registries.remotemultiplayerboxes
  teams : s.registries.callbacks = true → ∀ id, ∀ node ∈ s.registries.nodes.lookup id,
    node.isLocal = false →
      s.heard.lookup id = some node.team ∧ s.registries.remoteteams.lookup id = some node.team
  own : ∀ node ∈ s.registries.nodes.lookup localId, node.isLocal = true

theorem Agreed.agree (h : Agreed localId s) : Agree s where
  keys := h.keys
  teams hcallbacks id := fun ⟨node, hnode, hremote⟩ =>
    ⟨node.team, h.teams hcallbacks id node hnode hremote⟩

theorem Agreed.start (boxes : AList (fun _ : UInt32 => Unit))
    (teams : AList (fun _ : UInt32 => UInt8)) : Agreed localId (start boxes teams) where
  empty _ _ := rfl
  keys h := by cases h
  teams h := by cases h
  own node hnode := by cases hnode

/-- `setup` on registries without remote nodes. -/
theorem Agreed.setup (h : Agreed localId s)
    (hfresh : ∀ item ∈ s.registries.nodes.entries, item.2.isLocal = true) :
    Agreed localId { s with registries := setup localId s.roomPlayers s.registries } := by
  have hlocal : ∀ id, ∀ node ∈ ((attachNode s.registries localId true).nodes.lookup id),
      node.isLocal = true := by
    intro id node hnode
    rcases eq_or_ne id localId with rfl | hid
    · rw [attachNode, AList.lookup_insert] at hnode
      cases hnode
      rfl
    · rw [attachNode, AList.lookup_insert_ne hid] at hnode
      exact hfresh ⟨id, node⟩ (AList.mem_lookup_iff.mp hnode)
  refine ⟨fun hoff => (by cases hoff), fun _ id => ?_, fun _ id node hnode hremote => ?_,
    hlocal localId⟩
  · refine ⟨fun ⟨node, hnode, hremote⟩ => ?_, fun hbox => absurd hbox (AList.notMem_empty id)⟩
    rw [hlocal id node hnode] at hremote
    cases hremote
  · rw [hlocal id node hnode] at hremote
    cases hremote

/-- `cleanup` detaches every remote node. -/
theorem Agreed.cleanup (h : Agreed localId s) :
    Agreed localId { s with registries := Players.cleanup localId s.registries } := by
  have hlookup : ∀ id, (Players.cleanup localId s.registries).nodes.lookup id =
      if id ∈ s.registries.remotemultiplayerboxes.keys then none
      else (detachNode s.registries localId).nodes.lookup id :=
    lookup_detachAll _ _
  have hcallbacks : (Players.cleanup localId s.registries).callbacks = s.registries.callbacks :=
    callbacks_detachAll _ _
  have hnone : ∀ id, ∀ node ∈ (Players.cleanup localId s.registries).nodes.lookup id,
      node.isLocal = true := by
    intro id node hnode
    rw [hlookup] at hnode
    split_ifs at hnode with hbox
    · cases hnode
    · rcases eq_or_ne id localId with rfl | hid
      · rw [detachNode, AList.lookup_erase] at hnode
        cases hnode
      · rw [detachNode, AList.lookup_erase_ne hid] at hnode
        by_contra hremote
        cases hon : s.registries.callbacks with
        | false =>
            rw [h.empty hon id] at hnode
            cases hnode
        | true =>
            exact hbox (AList.mem_keys.mp
              ((h.keys hon id).mp ⟨node, hnode, by simpa using hremote⟩))
  refine ⟨fun hoff id => ?_, fun _ id => ?_, fun _ id node hnode hremote => ?_, hnone localId⟩
  · rw [hlookup]
    split_ifs
    · rfl
    · rcases eq_or_ne id localId with rfl | hid
      · exact AList.lookup_erase _ _
      · rw [detachNode, AList.lookup_erase_ne hid]
        exact h.empty (hcallbacks ▸ hoff) id
  · refine ⟨fun ⟨node, hnode, hremote⟩ => ?_, fun hbox => absurd hbox (AList.notMem_empty id)⟩
    rw [hnone id node hnode] at hremote
    cases hremote
  · rw [hnone id node hnode] at hremote
    cases hremote

/-- A leave takes the player out of both registries. -/
theorem Agreed.nodeLeave (h : Agreed localId s) (netid : UInt32) (room : List RoomPlayerInfo) :
    Agreed localId { s with
      registries := receiveNodeLeave s.registries netid, roomPlayers := room } := by
  cases hon : s.registries.callbacks with
  | false =>
      have hsame : receiveNodeLeave s.registries netid = s.registries := by
        rw [receiveNodeLeave, hon, if_neg Bool.false_ne_true]
      rw [hsame]
      exact ⟨h.empty, h.keys, h.teams, h.own⟩
  | true =>
      have hleave : receiveNodeLeave s.registries netid = onLeave s.registries netid := by
        rw [receiveNodeLeave, hon, if_pos rfl]
      rw [hleave]
      have hgone : (onLeave s.registries netid).nodes.lookup netid = none :=
        AList.lookup_erase _ _
      have hkept : ∀ id, id ≠ netid →
          (onLeave s.registries netid).nodes.lookup id = s.registries.nodes.lookup id :=
        fun id hid => AList.lookup_erase_ne hid
      refine ⟨fun hoff => ?_, fun _ id => ?_, fun _ id node hnode hremote => ?_,
        fun node hnode => ?_⟩
      · have hcallbacks : s.registries.callbacks = false := hoff
        rw [hon] at hcallbacks
        cases hcallbacks
      · show Remote (onLeave s.registries netid) id ↔
          id ∈ s.registries.remotemultiplayerboxes.erase netid
        rw [AList.mem_erase]
        rcases eq_or_ne id netid with rfl | hid
        · unfold Remote
          rw [hgone]
          simp
        · unfold Remote
          rw [hkept id hid]
          exact (h.keys hon id).trans ⟨fun hbox => ⟨hid, hbox⟩, And.right⟩
      · rcases eq_or_ne id netid with rfl | hid
        · rw [hgone] at hnode
          cases hnode
        · rw [hkept id hid] at hnode
          obtain ⟨hheard, hteam⟩ := h.teams hon id node hnode hremote
          exact ⟨hheard, (AList.lookup_erase_ne hid).trans hteam⟩
      · rcases eq_or_ne localId netid with rfl | hid
        · rw [hgone] at hnode
          cases hnode
        · rw [hkept localId hid] at hnode
          exact h.own node hnode

/-- A packet that changes no registry: only what was heard changes, and not of
a remote node. -/
theorem Agreed.ignored (h : Agreed localId s) {netid : UInt32} (team : UInt8)
    (hlocal : ∀ node ∈ s.registries.nodes.lookup netid, node.isLocal = true) :
    Agreed localId { s with heard := s.heard.insert netid team } := by
  refine ⟨h.empty, h.keys, fun hon id node hnode hremote => ?_, h.own⟩
  rcases eq_or_ne id netid with rfl | hid
  · rw [hlocal node hnode] at hremote
    cases hremote
  · obtain ⟨hheard, hteam⟩ := h.teams hon id node hnode hremote
    exact ⟨(AList.lookup_insert_ne hid).trans hheard, hteam⟩

/-- A packet about a remote node the registry has. -/
theorem Agreed.known (h : Agreed localId s) {netid : UInt32} {node : NetNode} (state : NodeState)
    (hnode : s.registries.nodes.lookup netid = some node) (hremote : node.isLocal = false) :
    Agreed localId { s with
      registries := receiveNodeState localId s.roomPlayers s.registries netid state
      heard := s.heard.insert netid state.team } := by
  have hon : s.registries.callbacks = true := by
    by_contra hoff
    rw [h.empty (by simpa using hoff) netid] at hnode
    cases hnode
  obtain ⟨hheard, hteam⟩ := h.teams hon netid node hnode hremote
  rw [receiveNodeState_known state hnode hremote]
  refine ⟨fun hoff => ?_, fun _ id => ?_, fun _ id other hother hremote' => ?_,
    fun other hother => ?_⟩
  · have hcallbacks : s.registries.callbacks = false := hoff
    rw [hon] at hcallbacks
    cases hcallbacks
  · rw [← h.keys hon id]
    unfold Remote
    dsimp only
    rcases eq_or_ne id netid with rfl | hid
    · rw [AList.lookup_insert, hnode]
      simp [NetNode.target, hremote]
    · rw [AList.lookup_insert_ne hid]
  · dsimp only at hother ⊢
    rcases eq_or_ne id netid with rfl | hid
    · rw [AList.lookup_insert] at hother
      cases hother
      refine ⟨AList.lookup_insert _, ?_⟩
      split_ifs with hchanged
      · exact AList.lookup_insert _
      · have hsame : node.team = state.team := by
          by_contra hne
          exact hchanged ⟨hne, hon⟩
        rw [hteam, hsame]
        rfl
    · rw [AList.lookup_insert_ne hid] at hother
      obtain ⟨hheard', hteam'⟩ := h.teams hon id other hother hremote'
      refine ⟨(AList.lookup_insert_ne hid).trans hheard', ?_⟩
      split_ifs
      · exact (AList.lookup_insert_ne hid).trans hteam'
      · exact hteam'
  · dsimp only at hother
    rcases eq_or_ne localId netid with rfl | hid
    · rw [h.own node hnode] at hremote
      cases hremote
    · rw [AList.lookup_insert_ne hid] at hother
      exact h.own other hother

/-- A packet about a player not seen before. -/
theorem Agreed.first (h : Agreed localId s) {netid : UInt32} (state : NodeState)
    (hon : s.registries.callbacks = true) (hnew : s.registries.nodes.lookup netid = none)
    (hother : netid ≠ localId)
    (hteam : state.team = 0 → joinedTeam s.roomPlayers netid = 0) :
    Agreed localId { s with
      registries := receiveNodeState localId s.roomPlayers s.registries netid state
      heard := s.heard.insert netid state.team } := by
  obtain ⟨⟨node, hremote, hsame, hlookup, hkept⟩, hboxes, hcallbacks, hjoined, hteams⟩ :=
    @receiveNodeState_first localId s.roomPlayers s.registries netid state hnew hon hother
  refine ⟨fun hoff => ?_, fun _ id => ?_, fun _ id other hnode hremote' => ?_,
    fun other hnode => ?_⟩
  · rw [hcallbacks] at hoff
    cases hoff
  · rw [hboxes, AList.mem_insert, ← h.keys hon id]
    unfold Remote
    rcases eq_or_ne id netid with rfl | hid
    · rw [hlookup]
      simp [hremote]
    · rw [hkept id hid]
      simp [hid]
  · rcases eq_or_ne id netid with rfl | hid
    · rw [hlookup] at hnode
      cases hnode
      rw [hsame]
      refine ⟨AList.lookup_insert _, hjoined.trans ?_⟩
      split_ifs with hzero
      · rw [hteam hzero, hzero]
      · rfl
    · rw [hkept id hid] at hnode
      obtain ⟨hheard, hteam'⟩ := h.teams hon id other hnode hremote'
      exact ⟨(AList.lookup_insert_ne hid).trans hheard, (hteams id hid).trans hteam'⟩
  · rw [hkept localId hother.symm] at hnode
    exact h.own other hnode

/-- **What each event keeps.** -/
theorem Agreed.step {e : Event} (h : Agreed localId s) (hfresh : Fresh localId s e)
    (hstep : step localId s e = some t) : Agreed localId t := by
  cases e with
  | setup =>
      cases hstep
      exact h.setup hfresh
  | cleanup =>
      cases hstep
      exact h.cleanup
  | nodeLeave netid =>
      cases hstep
      exact h.nodeLeave netid _
  | room roomPlayers =>
      cases hstep
      exact ⟨h.empty, h.keys, h.teams, h.own⟩
  | nodeState netid state =>
      cases hstep
      cases hnode : s.registries.nodes.lookup netid with
      | some node =>
          cases hremote : node.isLocal with
          | false => exact h.known state hnode hremote
          | true =>
              have hlocal : ∀ other ∈ s.registries.nodes.lookup netid, other.isLocal = true := by
                rw [hnode]
                rintro other ⟨⟩
                exact hremote
              rw [receiveNodeState_ignored state hlocal fun hnone => by
                rw [hnode] at hnone
                cases hnone]
              exact h.ignored state.team hlocal
      | none =>
          have hlocal : ∀ other ∈ s.registries.nodes.lookup netid, other.isLocal = true := by
            rw [hnode]
            rintro other ⟨⟩
          by_cases hannounced : s.registries.callbacks = true ∧ netid ≠ localId
          · exact h.first state hannounced.1 hnode hannounced.2
              (hfresh hannounced.1 hnode hannounced.2)
          · rw [receiveNodeState_ignored state hlocal fun _ => by
              by_contra hneither
              rw [not_or, Bool.not_eq_false] at hneither
              exact hannounced hneither]
            exact h.ignored state.team hlocal

/-! ## Runs -/

/-- **The registries agree** in every run of one backend under the condition. -/
theorem registries_agree {localId : UInt32} {boxes : AList fun _ : UInt32 => Unit}
    {teams : AList fun _ : UInt32 => UInt8} {s : Peer}
    (h : Exec.ReachedAlong (step localId) (Fresh localId) (start boxes teams) s) : Agree s := by
  refine (h.invariant (Agreed localId) (Agreed.start boxes teams) ?_).agree
  intro s e t hagreed hfresh hstep
  exact hagreed.step hfresh hstep

/-- Two matches, with a clean-up in between and a player who changes team and
leaves. -/
theorem registries_agree_rematch :
    ∃ s : Peer, Agree s ∧ s.registries.remotemultiplayerboxes.keys = [6] ∧
      s.registries.remoteteams.lookup 6 = some 2 := by
  let run : List Event :=
    [.room [{ id := 5, team := 1 }, { id := 6, team := 2 }], .setup,
      .nodeState 5 { team := 1 }, .nodeState 6 { team := 1 }, .nodeState 6 { team := 2 },
      .nodeLeave 5, .cleanup, .setup, .nodeState 6 { team := 2 }]
  obtain ⟨s, hs, hout⟩ : ∃ s, Exec.exec (step 100) (start ∅ ∅) run = some s ∧
      decide (s.registries.remotemultiplayerboxes.keys = [6] ∧
        s.registries.remoteteams.lookup 6 = some 2) = true :=
    Exec.exec_any (by decide +kernel)
  have halong : Exec.Along (step 100) (Fresh 100) (start ∅ ∅) run := by decide +kernel
  exact ⟨s, registries_agree ⟨run, hs, halong⟩, of_decide_eq_true hout⟩

/-- **A rematch loses a player.**  A state packet between `cleanup` and the next
`setup` attaches the node again, and `setup` drops its box for good. -/
theorem registries_disagree :
    ¬ ∀ (localId : UInt32) (boxes : AList fun _ : UInt32 => Unit)
      (teams : AList fun _ : UInt32 => UInt8) (s : Peer),
      Exec.Reached (step localId) (start boxes teams) s → Agree s := by
  let run : List Event :=
    [.setup, .nodeState 5 { team := 1 }, .cleanup, .nodeState 5 { team := 1 }, .setup,
      .nodeState 5 { team := 1 }]
  obtain ⟨s, hs, hout⟩ : ∃ s, Exec.exec (step 100) (start ∅ ∅) run = some s ∧
      decide (s.registries.callbacks = true ∧ Remote s.registries 5 ∧
        ¬ 5 ∈ s.registries.remotemultiplayerboxes) = true :=
    Exec.exec_any (by decide +kernel)
  obtain ⟨hcallbacks, hremote, hbox⟩ := of_decide_eq_true hout
  intro hlaw
  exact hbox (((hlaw 100 ∅ ∅ s ⟨run, hs⟩).keys hcallbacks 5).mp hremote)

/-- **The condition is exact**: from agreeing registries, an event that does
not meet it leaves registries that disagree. -/
theorem agree_iff {e : Event} (h : Agreed localId s) (hstep : step localId s e = some t) :
    Agree t ↔ Fresh localId s e := by
  refine ⟨fun hagree => ?_, fun hfresh => (h.step hfresh hstep).agree⟩
  cases e with
  | setup =>
      cases hstep
      rintro ⟨id, node⟩ hitem
      have hnode : s.registries.nodes.lookup id = some node := AList.mem_lookup_iff.mpr hitem
      by_contra hremote
      have hid : id ≠ localId := by
        rintro rfl
        exact hremote (h.own node hnode)
      have hlookup : (Players.setup localId s.roomPlayers s.registries).nodes.lookup id =
          some node := (AList.lookup_insert_ne hid).trans hnode
      have hbox := (hagree.keys rfl id).mp ⟨node, hlookup, by simpa using hremote⟩
      exact AList.notMem_empty id hbox
  | nodeState netid state =>
      intro hon hnew hother hzero
      cases hstep
      obtain ⟨⟨node, hremote, -, hlookup, -⟩, -, hcallbacks, hjoined, -⟩ :=
        @receiveNodeState_first localId s.roomPlayers s.registries netid state hnew hon hother
      obtain ⟨team, hheard, hteam⟩ := hagree.teams hcallbacks netid ⟨node, hlookup, hremote⟩
      have hsame : state.team = team :=
        Option.some.inj ((AList.lookup_insert s.heard).symm.trans hheard)
      have hjoin : joinedTeam s.roomPlayers netid = team := by
        rw [if_pos hzero] at hjoined
        exact Option.some.inj (hjoined.symm.trans hteam)
      rw [hjoin, ← hsame, hzero]
  | cleanup => trivial
  | nodeLeave netid => trivial
  | room roomPlayers => trivial

end Players
