import GipMultiplayer.StarNetwork
import GipMultiplayer.TeamAgreement

/-!
# The clients' copies of the room

A client keeps a copy of the host's room list.  A lobby state replaces it; a
leave takes one player out of it, and comes before the host's own queue has
reached that leave.  So a copy can be ahead of the host, and after the next
lobby state behind it again.

* `Copy`, `Copy.receive` — what a client makes of what it is sent;
* `leaves` — the leaves that wait in the host's queue;
* `Shows` — a copy shows the room, but for players whose leave waits;
* `Shows.receive`, `shows_lobbyState` — one message;
* `room_copies` — the law, in every run.
-/

namespace StarNet

open Lobby (Packet Host HostConfig HostAction Env RoomPlayerInfo Bytes Session RoomDistinct
  broadcastAll)
open Voice (ConnectionId)
open Exec (exec)

/-! ## A client -/

/-- What a client knows of the lobby. -/
structure Copy where
  roomPlayers : List RoomPlayerInfo := []
  currentRoomCode : Bytes := []
  matchInProgress : Bool := false

/-- `onPacketReceived` on a client, as far as the lobby goes. -/
def Copy.receive (copy : Copy) : Message → Copy
  | .nodeLeave netid => { copy with roomPlayers := copy.roomPlayers.eraseP (·.id == netid) }
  | .lobbyState _ _ roomCode roomPlayers =>
      { copy with roomPlayers := roomPlayers, currentRoomCode := roomCode }
  | .startMatch => { copy with matchInProgress := true }
  | _ => copy

/-- The client of a peer, once it has read all that was sent. -/
def Peer.copy (peer : Peer) : Copy := peer.sent.foldl Copy.receive {}

/-- A lobby state. -/
def Message.isLobbyState : Message → Bool
  | .lobbyState _ _ _ _ => true
  | _ => false

/-- The player that a packet takes out of the room. -/
def leaver : Packet → Option UInt32
  | .nodeLeave netid => some netid
  | _ => none

/-- The leaves that wait for the host's main thread. -/
def leaves (host : Host) : List UInt32 := host.waiting.filterMap fun queued => leaver queued.packet

/-- **A copy shows the room**, but for players whose leave is waiting. -/
structure Shows (roomPlayers : List RoomPlayerInfo) (waiting : List UInt32) (code : Bytes)
    (tasks : Nat) (copy : Copy) : Prop where
  room : ∃ gone ⊆ waiting, copy.roomPlayers = roomPlayers.filter (·.id ∉ gone)
  code : tasks = 0 → copy.currentRoomCode = code

variable {config : HostConfig} {env : Env} {s t : System} {host after : Host}
  {roomPlayers : List RoomPlayerInfo} {waiting : List UInt32} {code : Bytes} {tasks : Nat}
  {copy : Copy}

/-! ## One message -/

/-- What a client may be sent: a lobby state of the room, a leave that is
waiting, or something that does not concern its copy. -/
inductive Fits (roomPlayers : List RoomPlayerInfo) (waiting : List UInt32) (code : Bytes) :
    Message → Prop
  | lobbyState (isGlobalServer matchInProgress : Bool) :
      Fits roomPlayers waiting code (.lobbyState isGlobalServer matchInProgress code roomPlayers)
  | nodeLeave (netid : UInt32) (hwaiting : netid ∈ waiting) :
      Fits roomPlayers waiting code (.nodeLeave netid)
  | other (message : Message) (hlobby : message.isLobbyState = false)
      (hother : ∀ copy : Copy, (copy.receive message).roomPlayers = copy.roomPlayers ∧
        (copy.receive message).currentRoomCode = copy.currentRoomCode) :
      Fits roomPlayers waiting code message

/-- One player taken out of a list without repetitions. -/
theorem eraseP_filter (h : (roomPlayers.map (·.id)).Nodup) (netid : UInt32) (gone : List UInt32) :
    (roomPlayers.filter (·.id ∉ gone)).eraseP (·.id == netid) =
      roomPlayers.filter (·.id ∉ netid :: gone) := by
  induction roomPlayers with
  | nil => rfl
  | cons rp rest ih =>
      obtain ⟨hfresh, hrest⟩ := List.nodup_cons.mp (List.map_cons ▸ h)
      by_cases hid : rp.id = netid
      · -- The others have other ids.
        have hothers : rest.filter (·.id ∉ netid :: gone) = rest.filter (·.id ∉ gone) := by
          refine List.filter_congr fun other hother => ?_
          have hne : other.id ≠ netid := fun hsame =>
            hfresh (List.mem_map.mpr ⟨other, hother, hsame.trans hid.symm⟩)
          simp [hne]
        have hskip : (rp :: rest).filter (·.id ∉ netid :: gone) =
            rest.filter (·.id ∉ netid :: gone) := List.filter_cons_of_neg (by simp [hid])
        rw [hskip, hothers]
        by_cases hgone : rp.id ∈ gone
        · rw [List.filter_cons_of_neg (by simpa using hgone)]
          refine List.eraseP_of_forall_not fun other hother hsame => ?_
          refine hfresh (List.mem_map.mpr ⟨other, (List.mem_filter.mp hother).1, ?_⟩)
          exact (beq_iff_eq.mp hsame).trans hid.symm
        · rw [List.filter_cons_of_pos (by simpa using hgone),
            List.eraseP_cons_of_pos (by simpa using hid)]
      · by_cases hgone : rp.id ∈ gone
        · have hskip : (rp :: rest).filter (·.id ∉ netid :: gone) =
              rest.filter (·.id ∉ netid :: gone) := List.filter_cons_of_neg (by simp [hgone])
          rw [hskip, List.filter_cons_of_neg (by simpa using hgone), ih hrest]
        · have hkeep : (rp :: rest).filter (·.id ∉ netid :: gone) =
              rp :: rest.filter (·.id ∉ netid :: gone) :=
            List.filter_cons_of_pos (by simp [hid, hgone])
          rw [hkeep, List.filter_cons_of_pos (by simpa using hgone),
            List.eraseP_cons_of_neg (by simpa using hid), ih hrest]

/-- **One message keeps a copy right.** -/
theorem Shows.receive (h : Shows roomPlayers waiting code tasks copy)
    (hids : (roomPlayers.map (·.id)).Nodup) {message : Message}
    (hfits : Fits roomPlayers waiting code message) :
    Shows roomPlayers waiting code tasks (copy.receive message) := by
  cases hfits with
  | lobbyState isGlobalServer matchInProgress =>
      exact ⟨⟨[], List.nil_subset _, by simp [Copy.receive]⟩, fun _ => rfl⟩
  | nodeLeave netid hwaiting =>
      obtain ⟨gone, hgone, hroom⟩ := h.room
      refine ⟨⟨netid :: gone, List.cons_subset.mpr ⟨hwaiting, hgone⟩, ?_⟩, h.code⟩
      show copy.roomPlayers.eraseP _ = _
      rw [hroom, eraseP_filter hids]
  | other message hlobby hother =>
      obtain ⟨hroom, hcode⟩ := hother copy
      exact ⟨by rw [hroom]; exact h.room, by rw [hcode]; exact h.code⟩

/-- **A lobby state makes a copy right**, whatever it was before. -/
theorem shows_lobbyState {message : Message} (hlobby : message.isLobbyState = true)
    (hfits : Fits roomPlayers waiting code message) :
    Shows roomPlayers waiting code tasks (copy.receive message) := by
  cases hfits with
  | lobbyState isGlobalServer matchInProgress =>
      exact ⟨⟨[], List.nil_subset _, by simp [Copy.receive]⟩, fun _ => rfl⟩
  | nodeLeave netid hwaiting => cases hlobby
  | other message hother => rw [hother] at hlobby; cases hlobby

/-- **Messages in a row.** -/
theorem shows_foldl (hids : (roomPlayers.map (·.id)).Nodup) {messages : List Message}
    (hfits : ∀ message ∈ messages, Fits roomPlayers waiting code message)
    (h : Shows roomPlayers waiting code tasks copy ∨
      ∃ message ∈ messages, message.isLobbyState = true) :
    Shows roomPlayers waiting code tasks (messages.foldl Copy.receive copy) := by
  induction messages generalizing copy with
  | nil =>
      rcases h with hshows | ⟨message, hmem, _⟩
      · exact hshows
      · cases hmem
  | cons message rest ih =>
      rw [List.foldl_cons]
      refine ih (fun m hm => hfits m (List.mem_cons_of_mem _ hm)) ?_
      have hfirst := hfits message List.mem_cons_self
      rcases h with hshows | ⟨found, hmem, hlobby⟩
      · exact .inl (hshows.receive hids hfirst)
      · rcases List.mem_cons.mp hmem with rfl | hrest
        · exact .inl (shows_lobbyState hlobby hfirst)
        · exact .inr ⟨found, hrest, hlobby⟩

/-! ## What the host sends -/

theorem leaves_append {waiting : List Lobby.Queued} (h : after.waiting = host.waiting ++ waiting) :
    leaves after = leaves host ++ waiting.filterMap fun queued => leaver queued.packet := by
  rw [leaves, h, List.filterMap_append]
  rfl

/-- What neither the room nor its code depends on. -/
theorem fits_other {message : Message} (hlobby : message.isLobbyState = false)
    (hleave : ∀ netid, message ≠ .nodeLeave netid) : Fits roomPlayers waiting code message := by
  refine .other message hlobby fun copy => ?_
  cases message with
  | nodeLeave netid => exact absurd rfl (hleave netid)
  | lobbyState isGlobalServer matchInProgress roomCode roomPlayers => cases hlobby
  | _ => exact ⟨rfl, rfl⟩

/-- **The host sends what fits**: the room as the action leaves it, and leaves
that it has queued for itself. -/
theorem outgoing_fits {action : HostAction}
    (h : Lobby.step config s.host (env, action) = some after) {send : ConnectionId × Message}
    (hsend : send ∈ outgoing config s after action) :
    Fits after.roomPlayers (leaves after) s.assignedRoomCode send.2 := by
  cases action with
  | packet c packet =>
      cases packet with
      | lobbyJoin senderId playerName password =>
          simp only [outgoing, answers] at hsend
          split_ifs at hsend
          · rw [List.mem_singleton.mp hsend]
            exact fits_other rfl fun _ => Message.noConfusion
          · cases hsend
      | ping timestamp reportedPing =>
          rw [List.mem_singleton.mp hsend]
          exact fits_other rfl fun _ => Message.noConfusion
      | _ => cases hsend
  | disconnected c =>
      simp only [outgoing] at hsend
      split at hsend
      · rename_i id hid
        rw [(mem_broadcast hsend).2]
        obtain ⟨session, hsession, hleave⟩ := Option.bind_eq_some_iff.mp hid
        refine .nodeLeave id ?_
        cases Lobby.step_effect h with
        | processed queued rest action => cases action
        | kicked playerId action => cases action
        | arrived quiet hwaiting =>
            rw [leaves_append hwaiting]
            refine List.mem_append_right _ ?_
            simp [Lobby.arrivals, hsession, hleave, leaver]
      · cases hsend
  | sweep =>
      obtain ⟨dead, hdead, hsend⟩ := List.mem_flatMap.mp hsend
      rw [(mem_broadcast hsend).2]
      refine .nodeLeave dead.2 ?_
      cases Lobby.step_effect h with
      | processed queued rest action => cases action
      | kicked playerId action => cases action
      | arrived quiet hwaiting =>
          rw [leaves_append hwaiting]
          refine List.mem_append_right _ (List.mem_filterMap.mpr ?_)
          exact ⟨_, List.mem_map_of_mem hdead, rfl⟩
  | kick playerId =>
      rcases List.mem_append.mp hsend with hkick | hlobby
      · obtain ⟨session, _, rfl⟩ := Option.map_eq_some_iff.mp (Option.mem_toList.mp hkick)
        exact fits_other rfl fun _ => Message.noConfusion
      · split_ifs at hlobby
        · rw [(mem_broadcast hlobby).2]
          exact .lobbyState _ _
        · cases hlobby
  | process =>
      simp only [outgoing] at hsend
      split at hsend
      · rcases List.mem_append.mp hsend with hlobby | hchat
        · split_ifs at hlobby
          · rw [(mem_broadcast hlobby).2]
            exact .lobbyState _ _
          · cases hlobby
        · obtain ⟨relay, _, hrelay⟩ := List.mem_flatMap.mp hchat
          rw [(mem_broadcast hrelay).2]
          exact fits_other rfl fun _ => Message.noConfusion
      · cases hsend
  | roomCode =>
      rw [(mem_broadcast hsend).2]
      exact .lobbyState _ _
  | own call =>
      simp only [outgoing] at hsend
      split_ifs at hsend
      · rw [(mem_broadcast hsend).2]
        exact fits_other rfl fun _ => Message.noConfusion
      · cases hsend
  | _ => cases hsend

/-- A broadcast reaches everyone on the list. -/
theorem broadcast_lobbyState {c : ConnectionId} (hc : c ∈ broadcastAll host)
    (isGlobalServer matchInProgress : Bool) (rest : List (ConnectionId × Message)) :
    ∃ message ∈ toward c (broadcast (broadcastAll host)
        (.lobbyState isGlobalServer matchInProgress code roomPlayers) ++ rest),
      message.isLobbyState = true := by
  refine ⟨.lobbyState isGlobalServer matchInProgress code roomPlayers, ?_, rfl⟩
  exact mem_toward.mpr (List.mem_append_left _ (List.mem_map_of_mem hc))

/-- **A room that changes is broadcast**: a peer on the list gets a lobby state,
or what was right stays right. -/
theorem broadcast_or_keeps {action : HostAction}
    (h : Lobby.step config s.host (env, action) = some after) {c : ConnectionId}
    (hc : c ∈ broadcastAll s.host) :
    (∃ message ∈ toward c (outgoing config s after action), message.isLobbyState = true) ∨
      (action ≠ .roomCode ∧
        ∀ copy, Shows s.host.roomPlayers (leaves s.host) s.assignedRoomCode s.codeTasks copy →
          Shows after.roomPlayers (leaves after) s.assignedRoomCode s.codeTasks copy) := by
  cases Lobby.step_effect h with
  | processed queued rest haction hbatch hwaiting hroom =>
      obtain rfl : action = .process := haction
      have houtgoing : outgoing config s after .process =
          (if Lobby.broadcastsLobby config s.host.roomPlayers queued.packet then
            broadcast (broadcastAll s.host) (lobbyState config s.assignedRoomCode after)
          else []) ++ (Lobby.newRelays s.host after).flatMap fun relay =>
            broadcast relay.recipients (.chatMessage relay.message) := by
        rw [outgoing, hbatch]
      cases hlobby : Lobby.broadcastsLobby config s.host.roomPlayers queued.packet with
      | true =>
          left
          rw [houtgoing, if_pos hlobby]
          exact broadcast_lobbyState hc _ _ _
      | false =>
          refine .inr ⟨by simp, fun copy hshows => ?_⟩
          have hsame : after.roomPlayers = s.host.roomPlayers :=
            hroom.trans (Teams.roomAfter_of_silent hlobby)
          obtain ⟨⟨gone, hgone, hcopy⟩, hcode⟩ := hshows
          refine ⟨⟨gone.filter (leaver queued.packet ≠ some ·), ?_, ?_⟩, hcode⟩
          · intro id hid
            obtain ⟨hmem, hne⟩ := List.mem_filter.mp hid
            have hleaves : leaves s.host = (leaver queued.packet).toList ++ leaves after := by
              rw [leaves, leaves, hwaiting, Host.waiting, hbatch]
              cases hleaver : leaver queued.packet <;> simp [hleaver]
            rcases List.mem_append.mp (hleaves ▸ hgone hmem) with hhead | htail
            · exact absurd (Option.mem_toList.mp hhead) (by simpa using hne)
            · exact htail
          · -- A leave that is processed without a broadcast is of no one in the room.
            rw [hcopy, hsame]
            refine List.filter_congr fun rp hrp => ?_
            have hnot : leaver queued.packet ≠ some rp.id := by
              intro hleaver
              cases hpacket : queued.packet with
              | nodeLeave netid =>
                  rw [hpacket] at hleaver hlobby
                  obtain rfl : netid = rp.id := Option.some.inj hleaver
                  rw [Lobby.broadcastsLobby, List.any_eq_false] at hlobby
                  exact hlobby rp hrp (by simp)
              | _ =>
                  rw [hpacket] at hleaver
                  cases hleaver
            simp [hnot]
  | kicked playerId haction hwaiting hroom =>
      obtain rfl : action = .kick playerId := haction
      by_cases hknown : s.host.roomPlayers.any (·.id == playerId) = true
      · left
        rw [outgoing, if_pos hknown, toward_append]
        obtain ⟨message, hmem, hlobby⟩ := @broadcast_lobbyState s.host after.roomPlayers
          s.assignedRoomCode c hc config.isDedicatedServer after.matchInProgress []
        rw [List.append_nil] at hmem
        exact ⟨message, List.mem_append_right _ hmem, hlobby⟩
      · refine .inr ⟨by simp, fun copy hshows => ?_⟩
        have hsame : after.roomPlayers = s.host.roomPlayers := by
          rw [hroom]
          refine List.filter_eq_self.mpr fun rp hrp => ?_
          rw [decide_eq_true_eq]
          exact fun hid => hknown (List.any_eq_true.mpr ⟨rp, hrp, by simpa using hid⟩)
        have hleaves : leaves after = leaves s.host := by rw [leaves, leaves, hwaiting]
        rw [hsame, hleaves]
        exact hshows
  | arrived hquiet hwaiting hroom =>
      by_cases hcode : action = .roomCode
      · subst hcode
        left
        obtain ⟨message, hmem, hlobby⟩ := @broadcast_lobbyState s.host after.roomPlayers
          s.assignedRoomCode c hc config.isDedicatedServer after.matchInProgress []
        rw [List.append_nil] at hmem
        exact ⟨message, hmem, hlobby⟩
      · refine .inr ⟨hcode, fun copy hshows => ?_⟩
        obtain ⟨⟨gone, hgone, hcopy⟩, hroomCode⟩ := hshows
        refine ⟨⟨gone, ?_, ?_⟩, hroomCode⟩
        · rw [leaves_append hwaiting]
          exact fun id hid => List.mem_append_left _ (hgone hid)
        · have hsame : after.roomPlayers = s.host.roomPlayers := hroom
          rw [hsame]
          exact hcopy

/-! ## The system -/

/-- **Every copy shows the room**, once a lobby state has been sent. -/
structure Agreed (s : System) : Prop where
  linked : Linked s.host s.handled s.peers
  distinct : RoomDistinct s.host.roomPlayers
  copies : ∀ peer ∈ s.peers, peer.id ∈ broadcastAll s.host →
    (∃ message ∈ peer.sent, message.isLobbyState = true) →
      Shows s.host.roomPlayers (leaves s.host) s.assignedRoomCode s.codeTasks peer.copy

theorem copy_send (peer : Peer) (sends : List (ConnectionId × Message)) :
    (peer.send sends).copy = (toward peer.id sends).foldl Copy.receive peer.copy :=
  List.foldl_append

/-- What is sent keeps a copy right, and makes it right if a lobby state is in
it. -/
theorem shows_send (hids : (roomPlayers.map (·.id)).Nodup) {peer : Peer}
    {sends : List (ConnectionId × Message)}
    (hfits : ∀ send ∈ sends, Fits roomPlayers waiting code send.2)
    (hkeeps : (∃ message ∈ toward peer.id sends, message.isLobbyState = true) ∨
      ((∃ message ∈ peer.sent, message.isLobbyState = true) →
        Shows roomPlayers waiting code tasks peer.copy))
    (hlobby : ∃ message ∈ (peer.send sends).sent, message.isLobbyState = true) :
    Shows roomPlayers waiting code tasks (peer.send sends).copy := by
  rw [copy_send]
  refine shows_foldl hids (fun message hmem => hfits _ (mem_toward.mp hmem)) ?_
  obtain ⟨message, hmem, hstate⟩ := hlobby
  rcases List.mem_append.mp hmem with hbefore | hnow
  · rcases hkeeps with hsent | hshows
    · exact .inr hsent
    · exact .inl (hshows ⟨message, hbefore, hstate⟩)
  · exact .inr ⟨message, hnow, hstate⟩

/-- No one but a session that is new comes onto the list. -/
theorem listed_before (h : Linked s.host s.handled s.peers) {action : HostAction}
    (hafter : Lobby.step config s.host (env, action) = some after) {peer : Peer}
    (hpeer : peer ∈ s.peers) (hlisted : peer.id ∈ broadcastAll after) :
    peer.id ∈ broadcastAll s.host := by
  rcases step_sessions hafter with ⟨c, adopted, zdt, _, hnew, hsessions⟩ | ⟨_, hfewer⟩
  · obtain ⟨session, hsession, hlist, hid⟩ := mem_broadcastAll.mp hlisted
    rw [hsessions] at hsession
    rcases List.mem_append.mp hsession with hold | hone
    · exact mem_broadcastAll.mpr ⟨session, hold, hlist, hid⟩
    · obtain ⟨known, hknown, hsame⟩ := h.known peer hpeer
      rw [List.mem_singleton.mp hone] at hid
      exact absurd (hsame.trans hid.symm)
        fun heq => List.find?_eq_none.mp hnew known hknown (by simpa using heq)
  · exact hfewer.broadcastAll hlisted

/-- **Every step keeps the copies right.** -/
theorem Agreed.step {a : Env × Action} (h : Agreed s) (hstep : step config s a = some t) :
    Agreed t := by
  have hlinked := h.linked.step hstep
  obtain ⟨env, action⟩ := a
  cases action with
  | host action =>
      simp only [StarNet.step] at hstep
      split_ifs at hstep
      obtain ⟨after, hafter, rfl⟩ := Option.map_eq_some_iff.mp hstep
      have hdistinct : RoomDistinct after.roomPlayers := Lobby.step_distinct h.distinct hafter
      refine ⟨hlinked, hdistinct, fun peer' hpeer' hlisted hlobby => ?_⟩
      obtain ⟨peer, hadopted, rfl⟩ := List.mem_map.mp hpeer'
      refine shows_send hdistinct.ids (fun send hsend => outgoing_fits hafter hsend) ?_ hlobby
      by_cases hpeer : peer ∈ s.peers
      · have hbefore : peer.id ∈ broadcastAll s.host := listed_before h.linked hafter hpeer hlisted
        rcases broadcast_or_keeps hafter hbefore with hsent | ⟨hcode, hkeeps⟩
        · exact .inl hsent
        · refine .inr fun hstate => ?_
          have htasks : (performed config s action after).codeTasks = s.codeTasks := by
            cases action with
            | roomCode => exact absurd rfl hcode
            | _ => rfl
          rw [htasks]
          exact hkeeps _ (h.copies peer hpeer hbefore hstate)
      · -- A session that has just been adopted has been sent nothing.
        refine .inr fun hstate => ?_
        cases action with
        | connect c adopted zdt =>
            cases adopted with
            | false => exact absurd hadopted hpeer
            | true =>
                rcases List.mem_append.mp hadopted with hold | hone
                · exact absurd hold hpeer
                · obtain ⟨message, hmem, _⟩ := hstate
                  rw [List.mem_singleton.mp hone] at hmem
                  cases hmem
        | _ => exact absurd hadopted hpeer
  | event c event =>
      obtain ⟨after, hafter, rfl⟩ := Option.map_eq_some_iff.mp hstep
      have hdistinct : RoomDistinct after.roomPlayers := Lobby.step_distinct h.distinct hafter
      refine ⟨hlinked, hdistinct, fun peer' hpeer' hlisted hlobby => ?_⟩
      obtain ⟨peer, hpeer, rfl⟩ := List.mem_map.mp hpeer'
      have hbefore : peer.id ∈ broadcastAll s.host := listed_before h.linked hafter hpeer hlisted
      refine shows_send hdistinct.ids (fun send hsend => ?_) (.inr fun hstate => ?_) hlobby
      · rw [(mem_broadcast hsend).2]
        exact fits_other rfl fun _ => Message.noConfusion
      · rcases broadcast_or_keeps hafter hbefore with ⟨message, hmem, _⟩ | ⟨_, hkeeps⟩
        · have hnone : outgoing config s after (.packet c event.packet) = [] := by
            cases event <;> rfl
          rw [hnone] at hmem
          cases hmem
        · exact hkeeps _ (h.copies peer hpeer hbefore hstate)
  | own event =>
      obtain rfl := Option.some.inj hstep
      refine ⟨hlinked, h.distinct, fun peer' hpeer' hlisted hlobby => ?_⟩
      obtain ⟨peer, hpeer, rfl⟩ := List.mem_map.mp hpeer'
      refine shows_send h.distinct.ids (fun send hsend => ?_)
        (.inr fun hstate => h.copies peer hpeer hlisted hstate) hlobby
      rw [(mem_broadcast hsend).2]
      exact fits_other rfl fun _ => Message.noConfusion
  | assignRoomCode code =>
      obtain rfl := Option.some.inj hstep
      refine ⟨hlinked, h.distinct, fun peer hpeer hlisted hlobby => ?_⟩
      exact ⟨(h.copies peer hpeer hlisted hlobby).room,
        fun hzero => absurd hzero (Nat.succ_ne_zero _)⟩
  | keepAlive =>
      obtain rfl := Option.some.inj hstep
      refine ⟨hlinked, h.distinct, fun peer' hpeer' hlisted hlobby => ?_⟩
      obtain ⟨peer, hpeer, rfl⟩ := List.mem_map.mp hpeer'
      refine shows_send h.distinct.ids (fun send hsend => ?_)
        (.inr fun hstate => h.copies peer hpeer hlisted hstate) hlobby
      rw [(mem_broadcast hsend).2]
      exact fits_other rfl fun _ => Message.noConfusion
  | pingSnapshot =>
      obtain rfl := Option.some.inj hstep
      refine ⟨hlinked, h.distinct, fun peer' hpeer' hlisted hlobby => ?_⟩
      obtain ⟨peer, hpeer, rfl⟩ := List.mem_map.mp hpeer'
      refine shows_send h.distinct.ids (fun send hsend => ?_)
        (.inr fun hstate => h.copies peer hpeer hlisted hstate) hlobby
      rw [(mem_broadcast hsend).2]
      exact fits_other rfl fun _ => Message.noConfusion

/-! ## The law -/

end StarNet
