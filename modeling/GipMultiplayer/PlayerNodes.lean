import GipMultiplayer.LobbyHost

/-!
# Remote players

Two classes keep a registry of the players of a match.  `GameBackend` has the
nodes it moves, by player id; `NetworkSynchronizer` has the boxes it draws and
their teams.  The backend fills its registry through the callbacks that
`NetworkSynchronizer::setup` installs, and `setup` and `cleanup` clear the
synchronizer's maps.  What a box looks like is left out: a box is its key.

* `receiveNodeState`, `receiveNodeLeave` — the backend's side, with the
  callbacks it makes;
* `setup`, `cleanup` — the synchronizer's side.
-/

namespace Players

open Lobby (RoomPlayerInfo NodeState)

/-- `NetNode`, without the node it moves; floats as their bits. -/
structure NetNode where
  isLocal : Bool := false
  team : UInt8 := 0
  targetX : UInt32 := 0
  targetY : UInt32 := 0
  targetZ : UInt32 := 0
  targetYaw : UInt32 := 0
  targetAnimState : UInt8 := 0
  deriving DecidableEq, Repr

/-- The registries: the nodes of the backend, and the boxes and teams of the
synchronizer.  `callbacks` says that `setup` has installed the callbacks. -/
structure Registries where
  nodes : AList (fun _ : UInt32 => NetNode) := ∅
  remotemultiplayerboxes : AList (fun _ : UInt32 => Unit) := ∅
  remoteteams : AList (fun _ : UInt32 => UInt8) := ∅
  callbacks : Bool := false

/-- `attachNode` for a box, which stands at (1.5, 0.25, 1.5). -/
def attachNode (r : Registries) (netid : UInt32) (isLocal : Bool) : Registries :=
  let node : NetNode :=
    { isLocal := isLocal, targetX := 0x3FC00000, targetY := 0x3E800000, targetZ := 0x3FC00000 }
  { r with nodes := r.nodes.insert netid node }

/-- `detachNode`. -/
def detachNode (r : Registries) (netid : UInt32) : Registries :=
  { r with nodes := r.nodes.erase netid }

/-- The team a player joins the match with: that of its room entry, or `1`. -/
def joinedTeam (roomPlayers : List RoomPlayerInfo) (id : UInt32) : UInt8 :=
  match roomPlayers.find? (·.id == id) with
  | some rp => rp.team
  | none => 1

/-- The callback `onjoin`. -/
def onJoin (localId : UInt32) (roomPlayers : List RoomPlayerInfo) (r : Registries)
    (id : UInt32) : Registries :=
  if id = localId then r
  else
    { attachNode r id false with
      remotemultiplayerboxes := r.remotemultiplayerboxes.insert id ()
      remoteteams := r.remoteteams.insert id (joinedTeam roomPlayers id) }

/-- The callback `onteamchanged`. -/
def onTeamChanged (r : Registries) (id : UInt32) (teamId : UInt8) : Registries :=
  { r with remoteteams := r.remoteteams.insert id teamId }

/-- The callback `onleave`. -/
def onLeave (r : Registries) (id : UInt32) : Registries :=
  { detachNode r id with
    remotemultiplayerboxes := r.remotemultiplayerboxes.erase id
    remoteteams := r.remoteteams.erase id }

/-- A remote node takes over what a state packet says. -/
def NetNode.target (node : NetNode) (state : NodeState) : NetNode :=
  { node with
    team := state.team
    targetX := state.x
    targetY := state.y
    targetZ := state.z
    targetYaw := state.yaw
    targetAnimState := state.animState }

/-- The callback for a player whose node is not in the registry yet. -/
def announceJoin (localId : UInt32) (roomPlayers : List RoomPlayerInfo) (r : Registries)
    (netid : UInt32) : Registries :=
  if (r.nodes.lookup netid).isNone ∧ r.callbacks then onJoin localId roomPlayers r netid else r

/-- `PACKET_NODE_STATE` in `onPacketReceived`. -/
def receiveNodeState (localId : UInt32) (roomPlayers : List RoomPlayerInfo) (r : Registries)
    (netid : UInt32) (state : NodeState) : Registries :=
  let r := announceJoin localId roomPlayers r netid
  match r.nodes.lookup netid with
  | none => r
  | some node =>
      if node.isLocal then r
      else
        let r' := { r with nodes := r.nodes.insert netid (node.target state) }
        if node.team ≠ state.team ∧ r.callbacks then onTeamChanged r' netid state.team else r'

/-- `PACKET_NODE_LEAVE` in `onPacketReceived`, as far as the registries go. -/
def receiveNodeLeave (r : Registries) (netid : UInt32) : Registries :=
  if r.callbacks then onLeave r netid else r

/-- `setup`: drop the boxes, attach the local node, take the teams of the room,
install the callbacks. -/
def setup (localId : UInt32) (roomPlayers : List RoomPlayerInfo) (r : Registries) : Registries :=
  { attachNode r localId true with
    remotemultiplayerboxes := ∅
    remoteteams := roomPlayers.foldl
      (fun teams rp => if rp.id ≠ localId then teams.insert rp.id rp.team else teams) ∅
    callbacks := true }

/-- `cleanup`: detach the local node and the node of every box. -/
def cleanup (localId : UInt32) (r : Registries) : Registries :=
  { r.remotemultiplayerboxes.keys.foldl detachNode (detachNode r localId) with
    remotemultiplayerboxes := ∅
    remoteteams := ∅ }

/-! ## Lookups -/

/-- Detaching a list of nodes leaves the others. -/
theorem lookup_detachAll (ids : List UInt32) (r : Registries) (id : UInt32) :
    (ids.foldl detachNode r).nodes.lookup id = if id ∈ ids then none else r.nodes.lookup id := by
  induction ids generalizing r with
  | nil => rfl
  | cons first rest ih =>
      rw [List.foldl_cons, ih]
      by_cases hrest : id ∈ rest
      · rw [if_pos hrest, if_pos (List.mem_cons_of_mem _ hrest)]
      · rw [if_neg hrest]
        by_cases hfirst : id = first
        · subst hfirst
          rw [if_pos List.mem_cons_self]
          exact AList.lookup_erase _ _
        · rw [if_neg (by simp [hfirst, hrest])]
          exact AList.lookup_erase_ne hfirst

theorem callbacks_detachAll (ids : List UInt32) (r : Registries) :
    (ids.foldl detachNode r).callbacks = r.callbacks := by
  induction ids generalizing r with
  | nil => rfl
  | cons first rest ih => exact ih (detachNode r first)

end Players
