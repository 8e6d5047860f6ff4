import GipMultiplayer.RoomInvariants
import GipMultiplayer.SlidingWindow

/-!
# The chat rate window

Every chat message that has text and comes from a player of the room is checked
against the times of that player's last messages: a limiter of three messages
over a sliding window of one second.  The times are dropped when the player
leaves.  The host runs on a clock that does not run backwards, and beside it
stand, for each player id, the times of the messages accepted during its stay in
the room, and of all that were ever accepted.

* `StampEffect`, `step_stamps` — what a step does to the times of one player;
* `Timed.Inv` — each player's times against what was accepted;
* `chat_rate_window` — the law in every run.
-/

namespace Lobby

open SlidingWindow (request allowance inside fresh Limited Recorded)
open Voice (ConnectionId)

/-! ## Definitions -/

/-- The times that `allowChatRate` has kept of a player. -/
def Host.stamps (host : Host) (id : UInt32) : List ℚ :=
  (host.chatRateStamps.lookup id).getD []

/-- The room lists the player. -/
def Host.inRoom (host : Host) (id : UInt32) : Bool :=
  host.roomPlayers.any (·.id == id)

/-- The player that a packet is checked against. -/
def Packet.checked (host : Host) : Packet → Option UInt32
  | .chatMessage message =>
      if sanitizeText message.text ≠ [] ∧ host.inRoom message.senderId = true then
        some message.senderId
      else none
  | _ => none

/-- The check that a step makes: the player, and whether the message is
accepted. -/
def rateCheck (env : Env) (host : Host) : HostAction → Option (UInt32 × Bool)
  | .process =>
      (host.batch.head?.bind fun queued => queued.packet.checked host).map fun id =>
        (id, (allowChatRate env.clock host id).2)
  | _ => none

/-- The time at which a step accepts a message of a player, if it does. -/
def acceptedAt (env : Env) (host : Host) (action : HostAction) (id : UInt32) : List ℚ :=
  if rateCheck env host action = some (id, true) then [env.clock] else []

/-- The host, its clock, and for each player the messages accepted since it
came into the room and those ever accepted. -/
structure Timed where
  host : Host
  clock : ℚ
  stay : UInt32 → List ℚ := fun _ => []
  ever : UInt32 → List ℚ := fun _ => []

/-- One step, at a time that is not before the last one. -/
def timedStep (config : HostConfig) (s : Timed) (a : Env × HostAction) : Option Timed :=
  if a.1.clock < s.clock then none
  else
    (step config s.host a).map fun host =>
      { host := host
        clock := a.1.clock
        stay := fun id =>
          if host.inRoom id then s.stay id ++ acceptedAt a.1 s.host a.2 id else []
        ever := fun id => s.ever id ++ acceptedAt a.1 s.host a.2 id }

/-- The lobby as it starts, at some time. -/
def Timed.start (config : HostConfig) (env : Env) : Timed :=
  { host := Lobby.start config env, clock := env.clock }

/-- What a player may still send at a time: three a second. -/
def Host.chatAllowance (host : Host) (clock : ℚ) (id : UInt32) : Nat :=
  allowance 3 1 clock (host.stamps id)

variable {config : HostConfig} {env : Env} {s t : Host} {action : HostAction} {id : UInt32}

/-! ## What a step does to the times of a player -/

/-- **`allowChatRate` is a request to the limiter.** -/
theorem allowChatRate_request (clock : ℚ) (host : Host) (id : UInt32) :
    allowChatRate clock host id =
      ({ host with
          chatRateStamps :=
            host.chatRateStamps.insert id (request 3 1 clock (host.stamps id)).1 },
        (request 3 1 clock (host.stamps id)).2) := by
  show (if 3 ≤ (fresh 1 clock (host.stamps id)).length then _ else _) = _
  unfold request
  by_cases hfull : 3 ≤ (fresh 1 clock (host.stamps id)).length
  · rw [if_pos hfull, if_pos hfull]
    rfl
  · rw [if_neg hfull, if_neg hfull]
    rfl

theorem stamps_insert {host : Host} {stamps : List ℚ}
    (h : t.chatRateStamps = host.chatRateStamps.insert id stamps) (d : UInt32) :
    t.stamps d = if d = id then stamps else host.stamps d := by
  unfold Host.stamps
  rw [h]
  split_ifs with hd
  · rw [hd, AList.lookup_insert]
    rfl
  · rw [AList.lookup_insert_ne hd]

/-- **What a step does to the times of one player**: nothing, one request to
the limiter, or it drops them as the player leaves. -/
inductive StampEffect (env : Env) (s t : Host) (action : HostAction) (id : UInt32) : Prop
  | kept (unchecked : ∀ accepted, rateCheck env s action ≠ some (id, accepted))
      (same : t.stamps id = s.stamps id)
  | checked
      (check : rateCheck env s action = some (id, (request 3 1 env.clock (s.stamps id)).2))
      (after : t.stamps id = (request 3 1 env.clock (s.stamps id)).1)
  | left (unchecked : rateCheck env s action = none) (stamps : t.stamps id = [])
      (room : t.roomPlayers = s.roomPlayers.eraseP (·.id == id))

/-- A chat message makes at most one request, for its sender. -/
theorem receiveChat_stamps (origin : Option ConnectionId) (message : ChatMessage) :
    (receiveChat env s origin message).chatRateStamps =
      match Packet.checked s (.chatMessage message) with
      | some id => s.chatRateStamps.insert id (request 3 1 env.clock (s.stamps id)).1
      | none => s.chatRateStamps := by
  unfold receiveChat Packet.checked
  dsimp only
  rw [allowChatRate_request]
  by_cases hempty : sanitizeText message.text = []
  · rw [if_pos hempty, if_neg fun h => h.1 hempty]
  · rw [if_neg hempty]
    cases hsender : s.roomPlayers.find? (·.id == message.senderId) with
    | none =>
        have hgone : s.inRoom message.senderId ≠ true := by
          intro hknown
          obtain ⟨rp, hrp, hid⟩ := List.any_eq_true.mp hknown
          exact List.find?_eq_none.mp hsender rp hrp hid
        rw [if_neg fun h => hgone h.2]
    | some sender =>
        have hknown : s.inRoom message.senderId = true :=
          List.any_eq_true.mpr ⟨sender, List.mem_of_find?_eq_some hsender,
            by simpa using List.find?_some hsender⟩
        rw [if_pos ⟨hempty, hknown⟩]
        dsimp only
        split_ifs <;> rfl

/-- Most packets that the main thread processes are no concern of the times. -/
theorem onPacketReceived_stamps {queued : Queued}
    (hchat : ∀ message, queued.packet ≠ .chatMessage message)
    (hleave : ∀ netid, queued.packet ≠ .nodeLeave netid) :
    (onPacketReceived config env s queued).chatRateStamps = s.chatRateStamps := by
  obtain ⟨packet, origin⟩ := queued
  cases packet with
  | chatMessage message => exact absurd rfl (hchat message)
  | nodeLeave netid => exact absurd rfl (hleave netid)
  | lobbyJoin senderId playerName password =>
      show (receiveJoin config env s senderId playerName).chatRateStamps = s.chatRateStamps
      unfold receiveJoin
      split_ifs <;> rfl
  | _ => rfl

/-- **One step.** -/
theorem step_stamps (h : step config s (env, action) = some t) :
    StampEffect env s t action id := by
  by_cases hprocess : action = .process
  swap
  · have hnone : rateCheck env s action = none := by
      cases action with
      | process => exact absurd rfl hprocess
      | _ => rfl
    refine .kept (fun accepted hcheck => by cases hnone.symm.trans hcheck) ?_
    rw [Host.stamps, Host.stamps, (step_chat hprocess h).1]
  subst hprocess
  obtain ⟨⟨packet, origin⟩, rest, hbatch, rfl⟩ := process_performed h
  have hrate : rateCheck env s .process = (packet.checked s).map fun id =>
      (id, (allowChatRate env.clock s id).2) := by
    rw [rateCheck, hbatch]
    rfl
  by_cases hchat : ∃ message, packet = .chatMessage message
  · obtain ⟨message, rfl⟩ := hchat
    have hafter := @receiveChat_stamps env { s with synced := false, batch := rest } origin message
    have hsame : Packet.checked { s with synced := false, batch := rest } (.chatMessage message) =
        Packet.checked s (.chatMessage message) := rfl
    rw [hsame] at hafter
    cases hchecked : Packet.checked s (.chatMessage message) with
    | none =>
        rw [hchecked] at hafter hrate
        refine .kept (fun accepted hcheck => by cases hrate.symm.trans hcheck) ?_
        exact congrArg (fun stamps => (AList.lookup id stamps).getD []) hafter
    | some d =>
        rw [hchecked] at hafter hrate
        have hstamps := stamps_insert hafter id
        by_cases hd : id = d
        · subst hd
          refine .checked (hrate.trans ?_) (hstamps.trans (if_pos rfl))
          rw [Option.map_some, allowChatRate_request]
        · refine .kept (fun accepted hcheck => hd ?_) (hstamps.trans (if_neg hd))
          have hpair := Option.some.inj (hrate.symm.trans hcheck)
          exact (congrArg Prod.fst hpair).symm
  · have hnone : rateCheck env s .process = none := by
      rw [hrate]
      cases packet with
      | chatMessage message => exact absurd ⟨message, rfl⟩ hchat
      | _ => rfl
    have hkept : ∀ {t : Host}, t.stamps id = s.stamps id → StampEffect env s t .process id :=
      fun hsame => .kept (fun accepted hcheck => by cases hnone.symm.trans hcheck) hsame
    by_cases hleave : ∃ netid, packet = .nodeLeave netid
    · obtain ⟨netid, rfl⟩ := hleave
      have hroom := (@onPacketReceived_room config env { s with synced := false, batch := rest }
        ⟨.nodeLeave netid, origin⟩).1
      show StampEffect env s
        (receiveLeave config env { s with synced := false, batch := rest } netid) .process id
      have hroom' : (receiveLeave config env { s with synced := false, batch := rest }
          netid).roomPlayers = s.roomPlayers.eraseP (·.id == netid) := hroom
      unfold receiveLeave at hroom' ⊢
      dsimp only at hroom' ⊢
      by_cases hknown : s.roomPlayers.any (·.id == netid) = true
      · rw [if_pos hknown] at hroom' ⊢
        by_cases hid : id = netid
        · subst hid
          refine .left hnone ?_ hroom'
          show ((s.chatRateStamps.erase id).lookup id).getD [] = []
          rw [AList.lookup_erase]
          rfl
        · refine hkept ?_
          show ((s.chatRateStamps.erase netid).lookup id).getD [] = _
          rw [AList.lookup_erase_ne hid]
          rfl
      · rw [if_neg hknown]
        exact hkept rfl
    · refine hkept ?_
      have hsame := @onPacketReceived_stamps config env
        { s with synced := false, batch := rest } ⟨packet, origin⟩
        (fun message h => hchat ⟨message, h⟩) fun netid h => hleave ⟨netid, h⟩
      exact congrArg (fun stamps => (AList.lookup id stamps).getD []) hsame

/-! ## The invariant -/

/-- A player that has left a room of distinct players is not in it. -/
theorem not_inRoom_of_left (hroom : RoomDistinct s.roomPlayers)
    (hleft : t.roomPlayers = s.roomPlayers.eraseP (·.id == id)) : t.inRoom id = false := by
  rw [Host.inRoom, hleft, List.any_eq_false]
  intro rp hrp hid
  obtain ⟨gone, before, after, hbefore, hgone, hroomPlayers, herased⟩ :=
    List.exists_of_eraseP (p := fun rp : RoomPlayerInfo => rp.id == id)
      (List.mem_of_mem_eraseP hrp) hid
  have hids := hroom.ids
  rw [hroomPlayers, List.map_append, List.map_cons, List.nodup_append, List.nodup_cons] at hids
  rw [herased] at hrp
  rcases List.mem_append.mp hrp with hfirst | hlast
  · exact hbefore rp hfirst hid
  · refine hids.2.1.1 ?_
    rw [beq_iff_eq.mp hgone, ← beq_iff_eq.mp hid]
    exact List.mem_map_of_mem hlast

/-- The room is one of distinct players, the times kept bound what a player had
accepted in its stay, and they were accepted. -/
structure Timed.Inv (s : Timed) : Prop where
  room : RoomDistinct s.host.roomPlayers
  stay : ∀ id, Limited 3 1 s.clock (s.host.stamps id) (s.stay id)
  ever : ∀ id, Recorded s.clock (s.host.stamps id) (s.ever id)

theorem timedStep_eq_some {s s' : Timed} {a : Env × HostAction}
    (h : timedStep config s a = some s') :
    s.clock ≤ a.1.clock ∧ ∃ host, step config s.host a = some host ∧
      s' =
        { host := host
          clock := a.1.clock
          stay := fun id =>
            if host.inRoom id then s.stay id ++ acceptedAt a.1 s.host a.2 id else []
          ever := fun id => s.ever id ++ acceptedAt a.1 s.host a.2 id } := by
  unfold timedStep at h
  split_ifs at h with hclock
  obtain ⟨host, hstep, rfl⟩ := Option.map_eq_some_iff.mp h
  exact ⟨not_lt.mp hclock, host, hstep, rfl⟩

/-- A checked message is accepted by the limiter or not at all. -/
theorem acceptedAt_eq {accepted : Bool} (h : rateCheck env s action = some (id, accepted)) :
    acceptedAt env s action id = if accepted = true then [env.clock] else [] := by
  rw [acceptedAt, h]
  refine if_congr ?_ rfl rfl
  simp

/-- What a step does to the accepted messages of a player, with the times. -/
theorem Timed.Inv.step {s s' : Timed} (h : s.Inv) {a : Env × HostAction}
    (hstep : timedStep config s a = some s') : s'.Inv := by
  obtain ⟨env, action⟩ := a
  obtain ⟨hclock, host, hhost, rfl⟩ := timedStep_eq_some hstep
  dsimp only at hclock
  refine ⟨step_distinct h.room hhost, fun id => ?_, fun id => ?_⟩
  · have hbefore := (h.stay id).later hclock
    dsimp only
    split_ifs with hin
    swap
    · exact Limited.empty ..
    cases @step_stamps _ _ _ _ _ id hhost with
    | kept unchecked same =>
        rw [same, acceptedAt, if_neg (unchecked true), List.append_nil]
        exact hbefore
    | checked check after =>
        rw [after, acceptedAt_eq check]
        exact hbefore.request
    | left unchecked stamps room =>
        rw [not_inRoom_of_left h.room room] at hin
        cases hin
  · have hbefore := (h.ever id).later hclock
    cases @step_stamps _ _ _ _ _ id hhost with
    | kept unchecked same =>
        dsimp only
        rw [same, acceptedAt, if_neg (unchecked true), List.append_nil]
        exact hbefore
    | checked check after =>
        dsimp only
        rw [after, acceptedAt_eq check]
        exact hbefore.request
    | left unchecked stamps room =>
        dsimp only
        rw [stamps, acceptedAt, unchecked, if_neg (by simp), List.append_nil]
        exact ⟨hbefore.past, List.nil_sublist _⟩

/-- The invariant of every run. -/
theorem Timed.Inv.reached {s : Timed}
    (h : Exec.Reached (timedStep config) (Timed.start config env) s) : s.Inv := by
  have hroom : (Lobby.start config env).roomPlayers = [] := by
    unfold Lobby.start
    split_ifs <;> rfl
  have hstamps : ∀ id, (Lobby.start config env).stamps id = [] := by
    intro id
    unfold Lobby.start
    split_ifs <;> rfl
  refine h.invariant Timed.Inv ⟨?_, ?_, ?_⟩ fun s a t hs ht => hs.step ht
  · show RoomDistinct (Lobby.start config env).roomPlayers
    rw [hroom]
    exact ⟨List.nodup_nil, List.nodup_nil⟩
  · exact fun id => Limited.empty ..
  · intro id
    refine ⟨fun t ht => absurd ht List.not_mem_nil, ?_⟩
    exact (hstamps id) ▸ List.nil_sublist _

/-! ## The law -/

/-- **The chat rate window.**  In every run, no closed second of a player's
stay holds more than three of its accepted messages; a message is refused only
after three were accepted in the second before it; and while the player stays,
no refusal, no message of another player and nothing else changes what it may
still send. -/
theorem chat_rate_window {s : Timed}
    (h : Exec.Reached (timedStep config) (Timed.start config env) s) (id : UInt32) :
    (∀ a, (inside (s.stay id) a (a + 1)).length ≤ 3) ∧
      ∀ a s', timedStep config s a = some s' →
        (rateCheck a.1 s.host a.2 = some (id, false) →
          3 ≤ (inside (s.ever id) (a.1.clock - 1) a.1.clock).length) ∧
        (rateCheck a.1 s.host a.2 ≠ some (id, true) → s'.host.inRoom id = true →
          ∀ clock, a.1.clock ≤ clock →
            s'.host.chatAllowance clock id = s.host.chatAllowance clock id) := by
  have hinv := Timed.Inv.reached h
  refine ⟨(hinv.stay id).window, fun a s' hstep => ?_⟩
  obtain ⟨env', action⟩ := a
  obtain ⟨hclock, host, hhost, rfl⟩ := timedStep_eq_some hstep
  dsimp only at hclock ⊢
  have heffect : StampEffect env' s.host host action id := step_stamps hhost
  constructor
  · intro hrefused
    cases heffect with
    | kept unchecked same => exact absurd hrefused (unchecked false)
    | checked check after =>
        have hpair := Option.some.inj (check.symm.trans hrefused)
        exact ((hinv.ever id).later hclock).of_refused (congrArg Prod.snd hpair)
    | left unchecked stamps room => cases unchecked.symm.trans hrefused
  · intro hother hstays clock hlater
    unfold Host.chatAllowance
    cases heffect with
    | kept unchecked same => rw [same]
    | checked check after =>
        rw [after]
        refine SlidingWindow.allowance_refused hlater ?_
        cases haccepted : (request 3 1 env'.clock (s.host.stamps id)).2 with
        | false => rfl
        | true => exact absurd (haccepted ▸ check) hother
    | left unchecked stamps room =>
        rw [not_inRoom_of_left hinv.room room] at hstays
        cases hstays

/-- Four messages within a second, the last one exactly a second after the
first: it is refused. -/
theorem chat_rate_window_full :
    ∃ s : Timed, (∀ a, (inside (s.stay 5) a (a + 1)).length ≤ 3) ∧
      s.stay 5 = [0, 1 / 4, 1 / 2] ∧
      rateCheck { clock := 1 } s.host .process = some (5, false) ∧
      3 ≤ (inside (s.ever 5) 0 1).length := by
  let hello : Packet := .chatMessage { text := [104, 105] }
  let run : List (Env × HostAction) :=
    [({}, .connect 11 true true), ({}, .packet 11 (.lobbyJoin 5 [65] [])),
      ({}, .packet 11 hello), ({}, .packet 11 hello), ({}, .packet 11 hello),
      ({}, .packet 11 hello), ({}, .beginUpdate), ({}, .process), ({}, .process),
      ({ clock := 1 / 4 }, .process), ({ clock := 1 / 2 }, .process)]
  obtain ⟨s, hs, htest⟩ := @Exec.exec_any _ _ (timedStep { localNodeId := 100 })
    (Timed.start { localNodeId := 100 } {}) run
    (fun s => s.stay 5 = [0, 1 / 4, 1 / 2] ∧
      rateCheck { clock := 1 } s.host .process = some (5, false) ∧
      (timedStep { localNodeId := 100 } s ({ clock := 1 }, .process)).isSome = true)
    (by decide +kernel)
  obtain ⟨hstay, hcheck, hsome⟩ := of_decide_eq_true htest
  obtain ⟨s', hstep⟩ := Option.isSome_iff_exists.mp hsome
  obtain ⟨hwindow, hlaw⟩ := chat_rate_window ⟨run, hs⟩ 5
  refine ⟨s, hwindow, hstay, hcheck, ?_⟩
  have hfull := (hlaw _ s' hstep).1 hcheck
  rwa [show (1 : ℚ) - 1 = 0 from sub_self 1] at hfull

end Lobby
