import GipMultiplayer.Leases
import GipMultiplayer.LobbyHost
import GipMultiplayer.RoomRegistration

/-!
# How long a room stays listed

A host registers when it has connected to the master, and from then on every ten
seconds of its own frames: a heartbeat, and a register with the player count and
match state of the moment.  The master counts the seconds since it heard of a
server in its own frames, and drops the server after thirty.  Nothing tells the
host that it has been dropped, so the two clocks must not drift apart.

The entry of a host is a lease: the host renews it, the master lets it lapse.

* `splitHostPort_advertisedAddress` — the master reads the port the host means;
* `Listing`, `step` — a host, its wire to the master, and the master with
  everyone else;
* `Held.step` — what the master knows of the host;
* `room_stays_listed` — while all are on time, the room stays listed under its
  code and shows the host as it was a moment ago.
-/

namespace Master

open Lobby (decimal)

/-! ## What a host registers -/

section

variable {Address : Type}

/-- What a host is started with. -/
structure HostSettings where
  publicIp : Bytes
  port : UInt16
  isDedicatedServer : Bool
  useP2P : Bool
  serverName : Bytes
  isPrivateServer : Bool
  serverPassword : Bytes

/-- What changes while it runs.  The addresses of its networks are asked of the
system, for a port. -/
structure HostFacts (Address : Type) where
  playerCount : UInt32
  lobbyTeamSize : UInt8
  matchInProgress : Bool
  gatheredCandidates : List (Candidate Address)
  localCandidates : UInt16 → List (Candidate Address)

/-- `advertisedPort`: punches use a socket of their own. -/
def HostSettings.advertisedPort (settings : HostSettings) : UInt16 :=
  if settings.isDedicatedServer && !settings.useP2P then settings.port else settings.port + 2

/-- `advertisedAddress`. -/
def HostSettings.advertisedAddress (settings : HostSettings) : Bytes :=
  settings.publicIp ++ 58 :: decimal settings.advertisedPort.toNat

/-- `makeRegisterPacket`; `contains` is the transport's `ContainsAddress`. -/
def makeRegisterPacket (contains : List (Candidate Address) → Address → Bool)
    (settings : HostSettings) (facts : HostFacts Address) : RegisterPacket Address where
  ip := settings.advertisedAddress
  name := settings.serverName
  currentPlayers := facts.playerCount
  maxPlayers := UInt32.ofNat (facts.lobbyTeamSize.toNat * 2)
  matchState := if facts.matchInProgress then 1 else 0
  isPrivate := settings.isPrivateServer
  hasPassword := !settings.serverPassword.isEmpty
  isDedicated := settings.isDedicatedServer
  useP2P := settings.useP2P
  candidates :=
    (facts.localCandidates settings.advertisedPort).foldl
      (fun candidates found =>
        if contains candidates found.address then candidates else candidates ++ [found])
      facts.gatheredCandidates

end

/-! ## The port -/

/-- A digit of a decimal is a digit. -/
theorem mem_decimal {n : Nat} {c : UInt8} (h : c ∈ decimal n) : 48 ≤ c ∧ c ≤ 57 := by
  obtain ⟨digit, hdigit, rfl⟩ := List.mem_map.mp h
  have hrange := Nat.isDigit_of_mem_toDigits (by decide) le_rfl hdigit
  simp only [Char.isDigit, Bool.and_eq_true, decide_eq_true_eq] at hrange
  have hlow : 48 ≤ digit.toNat := UInt32.le_iff_toNat_le.mp hrange.1
  have hhigh : digit.toNat ≤ 57 := UInt32.le_iff_toNat_le.mp hrange.2
  rw [UInt8.le_iff_toNat_le, UInt8.le_iff_toNat_le, UInt8.toNat_ofNat']
  have hsmall : digit.toNat % 2 ^ 8 = digit.toNat := by omega
  rw [hsmall]
  exact ⟨hlow, hhigh⟩

theorem decimal_ne_nil (n : Nat) : decimal n ≠ [] := fun h =>
  Nat.toDigits_ne_nil (List.map_eq_nil_iff.mp h)

/-- Reading the digits of a decimal. -/
theorem foldl_decimal (n : Nat) :
    (decimal n).foldl (fun (acc : Int) c => 10 * acc + (c.toNat - 48 : Nat)) 0 = n := by
  have hdigits : ∀ c ∈ Nat.toDigits 10 n, c.toNat.toUInt8.toNat = c.toNat := fun c hc => by
    have hrange := Nat.isDigit_of_mem_toDigits (by decide) le_rfl hc
    simp only [Char.isDigit, Bool.and_eq_true, decide_eq_true_eq] at hrange
    have hhigh : c.toNat ≤ 57 := UInt32.le_iff_toNat_le.mp hrange.2
    rw [Nat.toUInt8, UInt8.toNat_ofNat']
    omega
  have hread : ∀ (l : List Char) (init : Nat), (∀ c ∈ l, c.toNat.toUInt8.toNat = c.toNat) →
      (l.map fun c => c.toNat.toUInt8).foldl
          (fun (acc : Int) c => 10 * acc + (c.toNat - 48 : Nat)) init =
        (Nat.ofDigitChars 10 l init : Nat) := by
    intro l
    induction l with
    | nil => exact fun init _ => congrArg Nat.cast Nat.ofDigitChars_nil.symm
    | cons c l ih =>
        intro init hl
        rw [List.map_cons, List.foldl_cons, Nat.ofDigitChars_cons, hl c List.mem_cons_self]
        exact ih (10 * init + (c.toNat - 48)) fun d hd => hl d (List.mem_cons_of_mem _ hd)
  exact (hread _ 0 hdigits).trans (congrArg Nat.cast Nat.ofDigitChars_ten_toDigits)

/-- `std::stoi` reads what `std::to_string` has written. -/
theorem stoi_decimal {n : Nat} (hn : n ≤ 65535) : stoi (decimal n) = some (n : Int) := by
  have hdigits := @mem_decimal n
  have hread := foldl_decimal n
  have hall : (decimal n).takeWhile (fun c => 48 ≤ c && c ≤ 57) = decimal n :=
    List.takeWhile_eq_self_iff.mpr fun c hc => by simp [hdigits hc]
  cases htext : decimal n with
  | nil => exact absurd htext (decimal_ne_nil n)
  | cons first rest =>
      rw [htext] at hdigits hall hread
      obtain ⟨hlow, hhigh⟩ := hdigits List.mem_cons_self
      have hspace : isSpace first = false := by
        simp only [isSpace, Bool.or_eq_false_iff, Bool.and_eq_false_iff, decide_eq_false_iff_not]
        constructor
        · rintro rfl
          exact absurd hlow (by decide)
        · exact .inr fun hle => absurd (UInt8.le_trans hlow hle) (by decide)
      have hminus : first ≠ 45 := by
        rintro rfl
        exact absurd hlow (by decide)
      have hplus : first ≠ 43 := by
        rintro rfl
        exact absurd hlow (by decide)
      unfold stoi
      simp only [List.dropWhile_cons, hspace, Bool.false_eq_true, if_false]
      split
      · next heq => exact absurd (List.cons.inj heq).1 hminus
      · next heq => exact absurd (List.cons.inj heq).1 hplus
      · simp only [hall, hread]
        rw [Option.filter_some, if_pos]
        simp only [Bool.and_eq_true, decide_eq_true_eq]
        omega

/-- **The master reads the advertised port.** -/
theorem splitHostPort_advertisedAddress (settings : HostSettings) :
    splitHostPort settings.advertisedAddress =
      some (settings.publicIp, settings.advertisedPort) := by
  have hport : settings.advertisedPort.toNat ≤ 65535 := by
    have hlt := settings.advertisedPort.toNat_lt
    omega
  have hcolon : settings.advertisedAddress.reverse.findIdx? (· = 58) =
      some (decimal settings.advertisedPort.toNat).length := by
    have hnone : (decimal settings.advertisedPort.toNat).reverse.findIdx? (· = 58) = none := by
      rw [List.findIdx?_eq_none_iff]
      intro c hc
      have hle := (mem_decimal (List.mem_reverse.mp hc)).2
      rw [decide_eq_false_iff_not]
      rintro rfl
      exact absurd hle (by decide)
    unfold HostSettings.advertisedAddress
    rw [List.reverse_append, List.reverse_cons, List.append_assoc, List.findIdx?_append, hnone,
      List.singleton_append, List.findIdx?_cons, if_pos (decide_eq_true rfl)]
    simp
  have htext : settings.advertisedAddress.length - 1 -
      (decimal settings.advertisedPort.toNat).length = settings.publicIp.length := by
    unfold HostSettings.advertisedAddress
    rw [List.length_append, List.length_cons]
    omega
  unfold splitHostPort
  rw [hcolon]
  dsimp only
  have hdrop : settings.advertisedAddress.drop (settings.publicIp.length + 1) =
      decimal settings.advertisedPort.toNat := by
    unfold HostSettings.advertisedAddress
    rw [List.drop_length_add_append]
    rfl
  have htake : settings.advertisedAddress.take settings.publicIp.length = settings.publicIp :=
    List.take_left
  rw [htext, hdrop, stoi_decimal hport, htake]
  have hrange : ((decide ((settings.advertisedPort.toNat : Int) < 0)) ||
      decide ((settings.advertisedPort.toNat : Int) > 65535)) = false := by
    rw [Bool.or_eq_false_iff, decide_eq_false_iff_not, decide_eq_false_iff_not]
    omega
  simp only [hrange, Bool.false_eq_true, if_false, Int.toNat_natCast, UInt16.ofNat_toNat]

/-! ## A host and its master -/

section

variable {Address : Type}

/-- What a connected host sends to the master. -/
inductive HostPacket (Address : Type)
  | heartbeat (ip : Bytes)
  | register (p : RegisterPacket Address)

/-- A packet on the wire, and when and out of which facts it was made. -/
structure Sent (Address : Type) where
  time : ℚ
  facts : HostFacts Address
  packet : HostPacket Address

/-- The packet is a register. -/
def Sent.isRegister (sent : Sent Address) : Bool :=
  match sent.packet with
  | .register _ => true
  | .heartbeat _ => false

/-- What the master does with a packet of the session. -/
def HostPacket.action (id : SessionId) (draw : Nat → RoomCode) :
    HostPacket Address → RoomAction Address
  | .heartbeat ip => .heartbeat id ip
  | .register p => .register id p draw

/-- A host that is connected to its master.  `updated` and `pruned` are the times
of the last frame of the one and of the other; `registered` is the register that
the master has handled last, with the time and the facts it was made from. -/
structure Listing (Address : Type) where
  now : ℚ
  facts : HostFacts Address
  masterHeartbeatTimer : ℚ
  updated : ℚ
  wire : List (Sent Address)
  rooms : Rooms Address
  pruned : ℚ
  registered : Option (ℚ × HostFacts Address) := none

/-- Time passes; the game goes on; candidates have been gathered; a frame of the
host; the master handles the next packet of the host, or something of someone
else; a frame of the master. -/
inductive ListingAction (Address : Type)
  | pass (time : ℚ)
  | changes (playerCount : UInt32) (lobbyTeamSize : UInt8) (matchInProgress : Bool)
      (localCandidates : UInt16 → List (Candidate Address))
  | gathered (candidates : List (Candidate Address))
  | update
  | deliver (draw : Nat → RoomCode)
  | other (action : RoomAction Address)
  | prune

/-- The action is one of another session. -/
def RoomAction.foreign (id : SessionId) : RoomAction Address → Bool
  | .connect _ _ => true
  | .disconnect other | .register other _ _ | .heartbeat other _ | .punchRequest other _ =>
      other ≠ id
  | .update _ => false

variable (inet : Inet Address) (contains : List (Candidate Address) → Address → Bool)
  (settings : HostSettings) (id : SessionId)

/-- A packet is put on the wire. -/
def Listing.send (s : Listing Address) (packet : HostPacket Address) : Listing Address :=
  { s with wire := s.wire ++ [⟨s.now, s.facts, packet⟩] }

/-- A register is put on the wire. -/
def Listing.sendRegister (s : Listing Address) : Listing Address :=
  s.send (.register (makeRegisterPacket contains settings s.facts))

/-- The master part of `GameBackendLocal::update`. -/
def Listing.update (s : Listing Address) : Listing Address :=
  let masterHeartbeatTimer := s.masterHeartbeatTimer + (s.now - s.updated)
  if 10 ≤ masterHeartbeatTimer then
    { (s.send (.heartbeat settings.advertisedAddress)).sendRegister contains settings with
      masterHeartbeatTimer := 0
      updated := s.now }
  else { s with masterHeartbeatTimer := masterHeartbeatTimer, updated := s.now }

/-- The register the master has handled last, after another packet. -/
def Listing.handled (s : Listing Address) (sent : Sent Address) : Option (ℚ × HostFacts Address) :=
  if sent.isRegister then some (sent.time, sent.facts) else s.registered

/-- One step. -/
def listingStep (s : Listing Address) : ListingAction Address → Option (Listing Address)
  | .pass time => if 0 ≤ time then some { s with now := s.now + time } else none
  | .changes playerCount lobbyTeamSize matchInProgress localCandidates =>
      some { s with facts :=
        ⟨playerCount, lobbyTeamSize, matchInProgress, s.facts.gatheredCandidates, localCandidates⟩ }
  | .gathered candidates =>
      let facts := { s.facts with gatheredCandidates := candidates }
      some (Listing.sendRegister contains settings { s with facts := facts })
  | .update => some (s.update contains settings)
  | .deliver draw =>
      match s.wire with
      | [] => none
      | sent :: rest =>
          (roomStep inet s.rooms (sent.packet.action id draw)).map fun rooms =>
            { s with wire := rest, rooms := rooms, registered := s.handled sent }
  | .other action =>
      if action.foreign id then
        (roomStep inet s.rooms action).map fun rooms => { s with rooms := rooms }
      else none
  | .prune =>
      (roomStep inet s.rooms (.update (s.now - s.pruned))).map fun rooms =>
        { s with rooms := rooms, pruned := s.now }

/-- **Everyone is on time**: the frames of the host, its packets, and the frames
of the master. -/
structure Listing.OnTime (frame delay tick : ℚ) (s : Listing Address) : Prop where
  host : s.now ≤ s.updated + frame
  wire : ∀ sent ∈ s.wire, s.now ≤ sent.time + delay
  master : s.now ≤ s.pruned + tick

instance (frame delay tick : ℚ) (s : Listing Address) : Decidable (s.OnTime frame delay tick) :=
  decidable_of_iff (s.now ≤ s.updated + frame ∧ (∀ sent ∈ s.wire, s.now ≤ sent.time + delay) ∧
    s.now ≤ s.pruned + tick) ⟨fun h => ⟨h.1, h.2.1, h.2.2⟩, fun h => ⟨h.host, h.wire, h.master⟩⟩

/-- The address under which the master sees a session, with the port of the host. -/
def hostAddress (session : ControlSession Address) : Bytes :=
  inet.readable (inet.withPort session.remote settings.advertisedPort)

/-- No one else registers under the address. -/
def LeavesAddress (address : Bytes) (s : Listing Address) : ListingAction Address → Prop
  | .other (.register other p _) => ∀ session ∈ s.rooms.session? other,
      observedAddress inet session.remote p.ip ≠ address
  | _ => True

instance (address : Bytes) (s : Listing Address) :
    (a : ListingAction Address) → Decidable (LeavesAddress inet address s a)
  | .other (.register other p _) => inferInstanceAs (Decidable (∀ session ∈ s.rooms.session? other,
      observedAddress inet session.remote p.ip ≠ address))
  | .other (.connect _ _) | .other (.disconnect _) | .other (.heartbeat _ _)
  | .other (.punchRequest _ _) | .other (.update _) => .isTrue trivial
  | .pass _ | .changes _ _ _ _ | .gathered _ | .update | .deliver _ | .prune => .isTrue trivial

variable {inet contains settings id}
variable {s t : Listing Address} {rooms rooms' : Rooms Address} {session : ControlSession Address}
  {e : ServerInfo Address}

/-- The master sees the host under the port it advertises. -/
theorem observedAddress_advertised (remote : Address) :
    observedAddress inet remote settings.advertisedAddress =
      inet.readable (inet.withPort remote settings.advertisedPort) := by
  rw [observedAddress, splitHostPort_advertisedAddress]
  rfl

/-! ## What the master does with the others -/

/-- The session that is found has the number, and is there. -/
theorem session?_some (h : rooms.session? id = some session) :
    session.id = id ∧ session.alive = true := by
  simpa using List.find?_some h

/-- A session that is there stays there. -/
theorem roomStep_session {a : RoomAction Address} (h : roomStep inet rooms a = some rooms')
    (hsession : rooms.session? id = some session) (ha : a ≠ .disconnect id) :
    rooms'.session? id = some session := by
  cases a with
  | connect other remote =>
      simp only [roomStep] at h
      split_ifs at h
      obtain rfl := Option.some.inj h
      show (rooms.sessions ++ _).find? _ = _
      rw [List.find?_append, show rooms.sessions.find? _ = _ from hsession]
      rfl
  | disconnect other =>
      obtain rfl := Option.some.inj h
      have hother : other ≠ id := fun heq => ha (heq ▸ rfl)
      have hsame : ∀ c : ControlSession Address, c.id = id →
          (if c.id = other then { c with alive := false } else c) = c :=
        fun c hc => if_neg fun heq => hother (heq.symm.trans hc)
      have hpred : ((fun c : ControlSession Address => decide (c.id = id) && c.alive) ∘
          fun c => if c.id = other then { c with alive := false } else c) =
          fun c => decide (c.id = id) && c.alive := by
        funext c
        by_cases hc : c.id = id
        · rw [Function.comp_apply, hsame c hc]
        · have hno : (if c.id = other then { c with alive := false } else c).id ≠ id := by
            split_ifs <;> exact hc
          rw [Function.comp_apply, decide_eq_false hno, decide_eq_false hc, Bool.false_and,
            Bool.false_and]
      unfold Rooms.session?
      rw [List.find?_map, hpred, show rooms.sessions.find? _ = _ from hsession, Option.map_some,
        hsame session (session?_some hsession).1]
  | register other p draw =>
      obtain ⟨_, -, rfl⟩ := Option.map_eq_some_iff.mp h
      exact hsession
  | heartbeat other ip =>
      obtain ⟨_, -, rfl⟩ := Option.map_eq_some_iff.mp h
      exact hsession
  | punchRequest other p =>
      obtain ⟨_, -, rfl⟩ := Option.map_eq_some_iff.mp h
      exact hsession
  | update deltaTime =>
      simp only [roomStep] at h
      split_ifs at h
      obtain rfl := Option.some.inj h
      exact hsession

/-- Others get no answers that are the host's. -/
theorem roomStep_responses {a : RoomAction Address} (h : roomStep inet rooms a = some rooms')
    (ha : ∀ p draw, a ≠ .register id p draw) {r : Response} (hr : r ∈ rooms'.responses)
    (hhost : r.host = id) : ∃ old ∈ rooms.responses, old.host = id ∧ old.code = r.code := by
  have hheard : ∀ (host : SessionId) (ip : Bytes),
      r ∈ rooms.responses.map (Response.heard host ip) →
        ∃ old ∈ rooms.responses, old.host = id ∧ old.code = r.code := by
    intro host ip hmem
    obtain ⟨old, hold, rfl⟩ := List.mem_map.mp hmem
    obtain ⟨hcode, hsame, -⟩ := heard_eq host ip old
    exact ⟨old, hold, hsame.symm.trans hhost, hcode.symm⟩
  cases a with
  | connect other remote =>
      simp only [roomStep] at h
      split_ifs at h
      obtain rfl := Option.some.inj h
      exact ⟨r, hr, hhost, rfl⟩
  | disconnect other =>
      obtain rfl := Option.some.inj h
      exact ⟨r, hr, hhost, rfl⟩
  | register other p draw =>
      obtain ⟨_, -, rfl⟩ := Option.map_eq_some_iff.mp h
      rcases List.mem_append.mp hr with hold | hlast
      · exact hheard _ _ hold
      · obtain rfl := List.mem_singleton.mp hlast
        exact absurd (by rw [show other = id from hhost]) (ha p draw)
  | heartbeat other ip =>
      obtain ⟨_, -, rfl⟩ := Option.map_eq_some_iff.mp h
      exact hheard _ _ hr
  | punchRequest other p =>
      obtain ⟨_, -, rfl⟩ := Option.map_eq_some_iff.mp h
      exact ⟨r, hr, hhost, rfl⟩
  | update deltaTime =>
      simp only [roomStep] at h
      split_ifs at h
      obtain rfl := Option.some.inj h
      obtain ⟨old, hold, rfl⟩ := List.mem_map.mp hr
      exact ⟨old, hold, hhost, rfl⟩

/-- An entry that is heard of or left alone. -/
def Kept (e : ServerInfo Address) (l : List (ServerInfo Address)) : Prop :=
  e ∈ l ∨ { e with lastHeartbeat := 0 } ∈ l

/-- **What becomes of the entry** while no one registers under its address and it
is not pruned: it stands, or is heard of. -/
theorem roomStep_kept {a : RoomAction Address} (h : roomStep inet rooms a = some rooms')
    (hips : (rooms.serverList.map (·.ip)).Nodup) (ha : ∀ deltaTime, a ≠ .update deltaTime)
    (hleaves : ∀ other p draw, a = .register other p draw → ∀ session ∈ rooms.session? other,
      observedAddress inet session.remote p.ip ≠ e.ip)
    (he : e ∈ rooms.serverList) : Kept e rooms'.serverList := by
  have hlist := roomStep_list h
  generalize rooms'.serverList = l at hlist
  cases hlist with
  | kept => exact .inl he
  | refreshed p draw hsession _ hip =>
      exact .inl (mem_modifyServer_of_ne he (hleaves _ _ _ rfl _ hsession).symm)
  | listed p draw hsession hnew => exact .inl (List.mem_append_left _ he)
  | heard other ip observed =>
      by_cases hip : e.ip = observed
      · exact .inr (mem_modifyServer_self (f := fun e => { e with lastHeartbeat := 0 }) hips he hip)
      · exact .inl (mem_modifyServer_of_ne he hip)
  | pruned deltaTime => exact absurd rfl (ha deltaTime)

/-! ## What the master does with the host -/

/-- The entry of the host, as a register made from the facts left it. -/
structure Shows (inet : Inet Address) (contains : List (Candidate Address) → Address → Bool)
    (settings : HostSettings) (session : ControlSession Address) (facts : HostFacts Address)
    (e : ServerInfo Address) : Prop where
  ip : e.ip = hostAddress inet settings session
  host : e.hostSession = session.id
  shown : ServerInfo.refresh inet (makeRegisterPacket contains settings facts) session.id e =
    { e with lastHeartbeat := 0 }

/-- **A register of the host** is listed; an entry under its address keeps its
code, and the host is answered that code. -/
theorem register_listed {facts : HostFacts Address} {draw : Nat → RoomCode}
    (h : roomStep inet rooms
      (.register id (makeRegisterPacket contains settings facts) draw) = some rooms')
    (hips : (rooms.serverList.map (·.ip)).Nodup) (hsession : rooms.session? id = some session) :
    ∃ e ∈ rooms'.serverList, Shows inet contains settings session facts e ∧ e.lastHeartbeat = 0 ∧
      (∀ old ∈ rooms.serverList, old.ip = hostAddress inet settings session →
        old.roomCode = e.roomCode) ∧
      ∃ ip, rooms'.responses = rooms.responses.map (Response.heard id ip) ++
        [{ code := e.roomCode, host := id, ip := ip }] := by
  obtain ⟨hid, -⟩ := session?_some hsession
  have hip : observedAddress inet session.remote (makeRegisterPacket contains settings facts).ip =
      hostAddress inet settings session := observedAddress_advertised _
  simp only [roomStep, hsession, Option.map_some, registerServer, hip] at h
  cases hfound : rooms.serverList.find? (·.ip = hostAddress inet settings session) with
  | some old =>
      simp only [hfound] at h
      obtain rfl := Option.some.inj h
      have hold := List.mem_of_find?_eq_some hfound
      have holdip : old.ip = hostAddress inet settings session := by
        simpa using List.find?_some hfound
      refine ⟨_, mem_modifyServer_self hips hold holdip, ⟨holdip, hid.symm, ?_⟩, rfl, ?_, _, rfl⟩
      · rw [← hid]
        rfl
      · intro other hother hotherip
        rw [List.inj_on_of_nodup_map hips hother hold (hotherip.trans holdip.symm)]
        rfl
  | none =>
      simp only [hfound] at h
      obtain rfl := Option.some.inj h
      refine ⟨_, List.mem_append_right _ (List.mem_singleton_self _), ⟨rfl, hid.symm, ?_⟩, rfl, ?_,
        _, rfl⟩
      · rw [← hid]
        rfl
      · intro other hother hotherip
        exact absurd (by simpa using hotherip) (List.find?_eq_none.mp hfound other hother)

/-! ## The lease -/

/-- The registers are the renewals; a heartbeat counts for one while it lasts. -/
def Listing.lease (s : Listing Address) (age sent heard : ℚ) : Lease.State ℚ :=
  ⟨s.now, s.updated, s.masterHeartbeatTimer, (s.wire.filter Sent.isRegister).map Sent.time,
    s.pruned, age, sent, heard⟩

theorem lease_sendRegister (contains : List (Candidate Address) → Address → Bool)
    (settings : HostSettings) (s : Listing Address) (age sent heard : ℚ) :
    (s.sendRegister contains settings).lease age s.now heard = (s.lease age sent heard).renew := by
  unfold Listing.sendRegister Listing.send Listing.lease Lease.State.renew
  rw [List.filter_append, List.map_append]
  rfl

theorem lease_sendHeartbeat (s : Listing Address) (ip : Bytes) (age sent heard : ℚ) :
    (s.send (.heartbeat ip)).lease age sent heard = s.lease age sent heard := by
  unfold Listing.send Listing.lease
  rw [List.filter_append]
  exact congrArg (fun wire => Lease.State.mk s.now s.updated s.masterHeartbeatTimer
    (List.map Sent.time wire) s.pruned age sent heard) (List.append_nil _)

variable {timing : Lease.Timing ℚ} {age sent heard : ℚ}

/-- **What the master has of the host**: its lease, and once a register has been
handled, an entry as old as the lease says. -/
structure Held (inet : Inet Address) (contains : List (Candidate Address) → Address → Bool)
    (settings : HostSettings) (session : ControlSession Address) (timing : Lease.Timing ℚ)
    (s : Listing Address) (age sent heard : ℚ) : Prop where
  lease : Lease.Inv timing (s.lease age sent heard)
  reached : Exec.Reached (roomStep inet) {} s.rooms
  there : s.rooms.session? session.id = some session
  made : ∀ sent ∈ s.wire, sent.packet = .heartbeat settings.advertisedAddress ∨
    sent.packet = .register (makeRegisterPacket contains settings sent.facts)
  fresh : s.registered = none → ∀ r ∈ s.rooms.responses, r.host ≠ session.id
  entry : ∀ made facts, s.registered = some (made, facts) → heard = made ∧
    ∃ e ∈ s.rooms.serverList, Shows inet contains settings session facts e ∧
      e.lastHeartbeat = age ∧ ∀ r ∈ s.rooms.responses, r.host = session.id → r.code = e.roomCode

/-- The host sends a register. -/
theorem Held.sendRegister (h : Held inet contains settings session timing s age sent heard) :
    Held inet contains settings session timing (s.sendRegister contains settings) age s.now
      heard where
  lease := lease_sendRegister contains settings s age sent heard ▸ h.lease.renew
  reached := h.reached
  there := h.there
  made := by
    intro packet hpacket
    rcases List.mem_append.mp hpacket with hold | hlast
    · exact h.made packet hold
    · obtain rfl := List.mem_singleton.mp hlast
      exact .inr rfl
  fresh := h.fresh
  entry := h.entry

/-- The host sends a heartbeat. -/
theorem Held.sendHeartbeat (h : Held inet contains settings session timing s age sent heard) :
    Held inet contains settings session timing (s.send (.heartbeat settings.advertisedAddress))
      age sent heard where
  lease := (lease_sendHeartbeat s _ age sent heard).symm ▸ h.lease
  reached := h.reached
  there := h.there
  made := by
    intro packet hpacket
    rcases List.mem_append.mp hpacket with hold | hlast
    · exact h.made packet hold
    · obtain rfl := List.mem_singleton.mp hlast
      exact .inl rfl
  fresh := h.fresh
  entry := h.entry

/-- A frame of the host. -/
theorem Held.update (h : Held inet contains settings session timing s age sent heard)
    (hperiod : timing.period = 10) :
    ∃ sent, Held inet contains settings session timing (s.update contains settings) age sent
      heard := by
  unfold Listing.update
  dsimp only
  split_ifs with hfires
  · have hlease := lease_sendRegister contains settings
      (s.send (.heartbeat settings.advertisedAddress)) age sent heard
    rw [lease_sendHeartbeat] at hlease
    have hfire := h.lease.fire
    rw [← hlease] at hfire
    exact ⟨s.now, { h.sendHeartbeat.sendRegister with lease := hfire }⟩
  · have hwait := h.lease.wait (by rw [hperiod]; exact not_le.mp hfires)
    exact ⟨sent, { h with lease := hwait }⟩

/-- Time passes, and everyone is still on time. -/
theorem Held.pass (h : Held inet contains settings session timing s age sent heard) {time : ℚ}
    (htime : 0 ≤ time)
    (hontime :
      Listing.OnTime timing.frame timing.delay timing.tick { s with now := s.now + time }) :
    Held inet contains settings session timing { s with now := s.now + time } age sent heard where
  lease := by
    refine h.lease.pass htime ⟨⟨hontime.host, fun sent hsent => ?_⟩, hontime.master⟩
    obtain ⟨packet, hpacket, rfl⟩ := List.mem_map.mp hsent
    exact hontime.wire packet (List.mem_filter.mp hpacket).1
  reached := h.reached
  there := h.there
  made := h.made
  fresh := h.fresh
  entry := h.entry

/-- The facts of the host are its own business. -/
theorem Held.changes (h : Held inet contains settings session timing s age sent heard)
    (facts : HostFacts Address) :
    Held inet contains settings session timing { s with facts := facts } age sent heard where
  lease := h.lease
  reached := h.reached
  there := h.there
  made := h.made
  fresh := h.fresh
  entry := h.entry

/-- The master has done something that leaves the entry. -/
theorem Held.master (h : Held inet contains settings session timing s age sent heard)
    {a : RoomAction Address} (hstep : roomStep inet s.rooms a = some rooms)
    (hthere : a ≠ .disconnect session.id) (hown : ∀ p draw, a ≠ .register session.id p draw)
    (hupdate : ∀ deltaTime, a ≠ .update deltaTime)
    (hleaves : ∀ other p draw, a = .register other p draw → ∀ c ∈ s.rooms.session? other,
      observedAddress inet c.remote p.ip ≠ hostAddress inet settings session) :
    ∃ age, Held inet contains settings session timing { s with rooms := rooms } age sent heard := by
  have hresponses : ∀ r ∈ rooms.responses, r.host = session.id →
      ∃ old ∈ s.rooms.responses, old.host = session.id ∧ old.code = r.code :=
    fun r hr hhost => roomStep_responses hstep hown hr hhost
  have hfresh : s.registered = none → ∀ r ∈ rooms.responses, r.host ≠ session.id := by
    intro hnone r hr hhost
    obtain ⟨old, hold, hsame, -⟩ := hresponses r hr hhost
    exact h.fresh hnone old hold hsame
  have hreached := h.reached.tail hstep
  have hsession := roomStep_session hstep h.there hthere
  rcases Option.eq_none_or_eq_some s.registered with hnone | ⟨⟨made, facts⟩, hregistered⟩
  · refine ⟨age, h.lease, hreached, hsession, h.made, hfresh, fun made facts hsome => ?_⟩
    cases hnone.symm.trans hsome
  · obtain ⟨hheard, e, he, hshows, hage, hcodes⟩ := h.entry made facts hregistered
    have hcode : ∀ r ∈ rooms.responses, r.host = session.id → r.code = e.roomCode := by
      intro r hr hhost
      obtain ⟨old, hold, hsame, hcode⟩ := hresponses r hr hhost
      exact hcode ▸ hcodes old hold hsame
    rcases roomStep_kept hstep (ips_nodup h.reached) hupdate
      (fun other p draw heq c hc => hshows.ip ▸ hleaves other p draw heq c hc) he with
      hsame | htouched
    · refine ⟨age, h.lease, hreached, hsession, h.made, hfresh, fun _ _ hsome => ?_⟩
      obtain ⟨rfl, rfl⟩ := Prod.mk.inj (Option.some.inj (hregistered.symm.trans hsome))
      exact ⟨hheard, e, hsame, hshows, hage, hcode⟩
    · refine ⟨0, h.lease.touch, hreached, hsession, h.made, hfresh, fun _ _ hsome => ?_⟩
      obtain ⟨rfl, rfl⟩ := Prod.mk.inj (Option.some.inj (hregistered.symm.trans hsome))
      exact ⟨hheard, _, htouched, ⟨hshows.ip, hshows.host, hshows.shown⟩, rfl, hcode⟩

/-- **A frame of the master** does not prune the entry. -/
theorem Held.prune (h : Held inet contains settings session timing s age sent heard)
    (hlate : timing.period + timing.frame + timing.delay + timing.tick ≤ 30)
    (hstep : roomStep inet s.rooms (.update (s.now - s.pruned)) = some rooms) :
    ∃ age, Held inet contains settings session timing
      { s with rooms := rooms, pruned := s.now } age sent heard := by
  have hreached := h.reached.tail hstep
  have hsession := roomStep_session hstep h.there (by simp)
  have hresponses : ∀ r ∈ rooms.responses, r.host = session.id →
      ∃ old ∈ s.rooms.responses, old.host = session.id ∧ old.code = r.code :=
    fun r hr hhost => roomStep_responses hstep (by simp) hr hhost
  have hage : age + (s.now - s.pruned) ≤ 30 := h.lease.age_le.trans hlate
  refine ⟨age + (s.now - s.pruned), h.lease.look, hreached, hsession, h.made, ?_, ?_⟩
  · intro hnone r hr hhost
    obtain ⟨old, hold, hsame, -⟩ := hresponses r hr hhost
    exact h.fresh hnone old hold hsame
  · intro made facts hsome
    obtain ⟨hheard, e, he, hshows, hsame, hcodes⟩ := h.entry made facts hsome
    have hlist : rooms.serverList =
        pruneServers s.rooms.alive (s.now - s.pruned) s.rooms.serverList := by
      simp only [roomStep] at hstep
      split_ifs at hstep
      exact (Option.some.inj hstep) ▸ rfl
    refine ⟨hheard, { e with lastHeartbeat := e.lastHeartbeat + (s.now - s.pruned) }, ?_,
      ⟨hshows.ip, hshows.host, ?_⟩, congrArg (· + _) hsame, ?_⟩
    · rw [hlist]
      refine List.mem_filter.mpr ⟨List.mem_map_of_mem he, ?_⟩
      rw [Bool.and_eq_true, decide_eq_true_eq]
      refine ⟨?_, hsame ▸ hage⟩
      show s.rooms.alive e.hostSession = true
      rw [hshows.host, Rooms.alive, h.there, Option.isSome_some]
    · exact hshows.shown
    · intro r hr hhost
      obtain ⟨old, hold, hsame, hcode⟩ := hresponses r hr hhost
      exact hcode ▸ hcodes old hold hsame

/-- A heartbeat is off the wire. -/
theorem Held.heartbeatGone (h : Held inet contains settings session timing s age sent heard)
    {packet : Sent Address} {rest : List (Sent Address)} (hwire : s.wire = packet :: rest)
    (hregister : packet.isRegister = false) :
    Held inet contains settings session timing { s with wire := rest } age sent heard where
  lease := by
    have hlease :
        Listing.lease { s with wire := rest } age sent heard = s.lease age sent heard := by
      unfold Listing.lease
      rw [hwire, List.filter_cons, hregister]
      rfl
    exact hlease ▸ h.lease
  reached := h.reached
  there := h.there
  made := fun other hother => h.made other (hwire ▸ List.mem_cons_of_mem _ hother)
  fresh := h.fresh
  entry := h.entry

/-- **A register of the host is handled**: the entry shows what it was made from. -/
theorem Held.registerHandled (h : Held inet contains settings session timing s age sent heard)
    {packet : Sent Address} {rest : List (Sent Address)} (hwire : s.wire = packet :: rest)
    (hpacket : packet.packet = .register (makeRegisterPacket contains settings packet.facts))
    {draw : Nat → RoomCode}
    (hstep : roomStep inet s.rooms (.register session.id
      (makeRegisterPacket contains settings packet.facts) draw) = some rooms) :
    Held inet contains settings session timing
      { s with wire := rest, rooms := rooms, registered := some (packet.time, packet.facts) }
      0 sent packet.time := by
  have hregister : packet.isRegister = true := by
    unfold Sent.isRegister
    rw [hpacket]
  have hunderway : (s.lease age sent heard).underway =
      packet.time :: (rest.filter Sent.isRegister).map Sent.time := by
    unfold Listing.lease
    rw [hwire, List.filter_cons, hregister]
    rfl
  obtain ⟨e, he, hshows, hage, hkeeps, ip, hresponses⟩ :=
    register_listed hstep (ips_nodup h.reached) h.there
  refine ⟨h.lease.arrive hunderway, h.reached.tail hstep,
    roomStep_session hstep h.there (by simp),
    fun other hother => h.made other (hwire ▸ List.mem_cons_of_mem _ hother),
    fun hnone => (by cases hnone), fun made facts hsome => ?_⟩
  obtain ⟨rfl, rfl⟩ := Prod.mk.inj (Option.some.inj hsome)
  refine ⟨rfl, e, he, hshows, hage, fun r hr hhost => ?_⟩
  rw [hresponses] at hr
  rcases List.mem_append.mp hr with hbefore | hlast
  · obtain ⟨old, hold, rfl⟩ := List.mem_map.mp hbefore
    obtain ⟨hcode, hsame, -⟩ := heard_eq session.id ip old
    -- An answer from before means that the entry was there, under its code.
    rcases Option.eq_none_or_eq_some s.registered with hnone | ⟨⟨made, facts⟩, hregistered⟩
    · exact absurd (hsame.symm.trans hhost) (h.fresh hnone old hold)
    · obtain ⟨-, before, hbefore, hshown, -, hcodes⟩ := h.entry made facts hregistered
      rw [hcode, hcodes old hold (hsame.symm.trans hhost)]
      exact hkeeps before hbefore hshown.ip
  · obtain rfl := List.mem_singleton.mp hlast
    rfl

/-- **One step**, while everyone is on time and no one else takes the address. -/
theorem Held.step (h : Held inet contains settings session timing s age sent heard)
    (hperiod : timing.period = 10)
    (hlate : timing.period + timing.frame + timing.delay + timing.tick ≤ 30)
    {a : ListingAction Address}
    (hstep : listingStep inet contains settings session.id s a = some t)
    (hontime : t.OnTime timing.frame timing.delay timing.tick)
    (hleaves : LeavesAddress inet (hostAddress inet settings session) s a) :
    ∃ age sent heard, Held inet contains settings session timing t age sent heard := by
  cases a with
  | pass time =>
      simp only [listingStep] at hstep
      split_ifs at hstep with htime
      obtain rfl := Option.some.inj hstep
      exact ⟨age, sent, heard, h.pass htime hontime⟩
  | changes playerCount lobbyTeamSize matchInProgress localCandidates =>
      obtain rfl := Option.some.inj hstep
      exact ⟨age, sent, heard, h.changes _⟩
  | gathered candidates =>
      obtain rfl := Option.some.inj hstep
      exact ⟨age, s.now, heard, (h.changes _).sendRegister⟩
  | update =>
      obtain rfl := Option.some.inj hstep
      obtain ⟨sent, hheld⟩ := h.update hperiod
      exact ⟨age, sent, heard, hheld⟩
  | deliver draw =>
      simp only [listingStep] at hstep
      cases hwire : s.wire with
      | nil => simp only [hwire, reduceCtorEq] at hstep
      | cons packet rest =>
          simp only [hwire] at hstep
          obtain ⟨rooms, hroom, rfl⟩ := Option.map_eq_some_iff.mp hstep
          rcases h.made packet (hwire ▸ List.mem_cons_self) with hpacket | hpacket
          · have hregister : packet.isRegister = false := by
              unfold Sent.isRegister
              rw [hpacket]
            rw [hpacket] at hroom
            change roomStep inet s.rooms (.heartbeat session.id settings.advertisedAddress) =
              some rooms at hroom
            obtain ⟨age, hheld⟩ := h.master hroom (by simp) (by simp) (by simp) (by simp)
            have hgone := hheld.heartbeatGone hwire hregister
            have hhandled : s.handled packet = s.registered := by
              unfold Listing.handled
              rw [hregister, if_neg Bool.false_ne_true]
            exact ⟨age, sent, heard, by rw [hhandled]; exact hgone⟩
          · rw [hpacket] at hroom
            have hhandled : s.handled packet = some (packet.time, packet.facts) := by
              unfold Listing.handled Sent.isRegister
              rw [hpacket, if_pos rfl]
            exact ⟨0, sent, packet.time, by
              rw [hhandled]; exact h.registerHandled hwire hpacket hroom⟩
  | other action =>
      simp only [listingStep] at hstep
      split_ifs at hstep with hforeign
      obtain ⟨rooms, hroom, rfl⟩ := Option.map_eq_some_iff.mp hstep
      obtain ⟨age, hheld⟩ := h.master hroom
        (by rintro rfl; simp [RoomAction.foreign] at hforeign)
        (by rintro p draw rfl; simp [RoomAction.foreign] at hforeign)
        (by rintro deltaTime rfl; cases hforeign)
        (by rintro other p draw rfl; exact hleaves)
      exact ⟨age, sent, heard, hheld⟩
  | prune =>
      obtain ⟨rooms, hroom, rfl⟩ := Option.map_eq_some_iff.mp hstep
      obtain ⟨age, hheld⟩ := h.prune hlate hroom
      exact ⟨age, sent, heard, hheld⟩

/-! ## The law -/

/-- The host has just connected: its first register is on the wire, and its
session has no answer yet.  Its timer runs since it was started. -/
structure Connected (inet : Inet Address) (contains : List (Candidate Address) → Address → Bool)
    (settings : HostSettings) (session : ControlSession Address) (frame tick : ℚ)
    (s : Listing Address) : Prop where
  reached : Exec.Reached (roomStep inet) {} s.rooms
  there : s.rooms.session? session.id = some session
  fresh : ∀ r ∈ s.rooms.responses, r.host ≠ session.id
  wire : s.wire = [⟨s.now, s.facts, .register (makeRegisterPacket contains settings s.facts)⟩]
  unregistered : s.registered = none
  timer : 0 ≤ s.masterHeartbeatTimer ∧ s.masterHeartbeatTimer < 10
  updated : s.updated ≤ s.now ∧ s.now ≤ s.updated + frame
  pruned : s.pruned ≤ s.now ∧ s.now ≤ s.pruned + tick

theorem Connected.held (h : Connected inet contains settings session timing.frame timing.tick s)
    (hperiod : timing.period = 10) :
    Held inet contains settings session timing s 0 s.now s.now where
  lease := by
    have hlease : s.lease 0 s.now s.now =
        ⟨s.now, s.updated, s.masterHeartbeatTimer, [s.now], s.pruned, 0, s.now, s.now⟩ := by
      unfold Listing.lease
      rw [h.wire]
      rfl
    rw [hlease]
    exact Lease.Inv.start h.updated.1 h.pruned.1 h.timer.1 (hperiod ▸ h.timer.2) h.updated.2
      h.pruned.2
  reached := h.reached
  there := h.there
  made := by
    intro packet hpacket
    rw [h.wire] at hpacket
    obtain rfl := List.mem_singleton.mp hpacket
    exact .inr rfl
  fresh := fun _ => h.fresh
  entry := by
    intro made facts hsome
    cases h.unregistered.symm.trans hsome

/-- **A room stays listed.**  Take a host that has connected to the master, whose
frames come at most `frame` seconds apart and whose packets arrive within `delay`
seconds, and a master whose frames come at most `tick` seconds apart.  If ten
seconds and these three do not exceed thirty, then in every run in which no one
else registers under its address, from the first answer on the host has an entry in
the list, under the code of all the answers it has got; it shows the register the
master has handled last, which was made at most `10 + frame + delay` seconds
ago. -/
theorem room_stays_listed {frame delay tick : ℚ} (hdelay : 0 ≤ delay)
    (hlate : 10 + frame + delay + tick ≤ 30)
    (hstart : Connected inet contains settings session frame tick s)
    (h : Exec.ReachedAlong (listingStep inet contains settings session.id)
      (fun s a => LeavesAddress inet (hostAddress inet settings session) s a ∧
        ∀ t ∈ listingStep inet contains settings session.id s a, t.OnTime frame delay tick) s t) :
    (∃ r ∈ t.rooms.responses, r.host = session.id) →
      ∃ made facts, t.registered = some (made, facts) ∧ t.now ≤ made + (10 + frame + delay) ∧
        ∃ e ∈ t.rooms.serverList, Shows inet contains settings session facts e ∧
          ∀ r ∈ t.rooms.responses, r.host = session.id → e.roomCode = r.code := by
  let timing : Lease.Timing ℚ := ⟨10, frame, delay, tick, by norm_num, hdelay⟩
  obtain ⟨age, sent, heard, hheld⟩ : ∃ age sent heard,
      Held inet contains settings session timing t age sent heard := by
    have hfirst : Held inet contains settings session timing s 0 s.now s.now :=
      @Connected.held _ _ _ _ _ _ timing hstart rfl
    refine h.invariant (fun t => ∃ age sent heard,
      Held inet contains settings session timing t age sent heard) ⟨_, _, _, hfirst⟩ ?_
    rintro m a n ⟨age, sent, heard, hheld⟩ ⟨hleaves, hontime⟩ hstep
    exact hheld.step rfl hlate hstep (hontime n hstep) hleaves
  rintro ⟨r, hr, hhost⟩
  rcases Option.eq_none_or_eq_some t.registered with hnone | ⟨⟨made, facts⟩, hregistered⟩
  · exact absurd hhost (hheld.fresh hnone r hr)
  · obtain ⟨rfl, e, he, hshows, -, hcodes⟩ := hheld.entry made facts hregistered
    exact ⟨heard, facts, hregistered, hheld.lease.heard_recent, e, he, hshows,
      fun r hr hhost => (hcodes r hr hhost).symm⟩

end

/-- A lobby that punches, and its session. -/
def sampleSettings : HostSettings :=
  ⟨[48], 25000, false, true, [65], false, []⟩

def sampleSession : ControlSession (Bytes × UInt16) := ⟨1, ([49], 5001), true⟩

/-- It has connected. -/
def sampleListing : Listing (Bytes × UInt16) :=
  let facts : HostFacts (Bytes × UInt16) := ⟨1, 2, false, [], fun _ => []⟩
  let register := makeRegisterPacket (fun _ _ => false) sampleSettings facts
  ⟨0, facts, 3, 0, [⟨0, facts, .register register⟩], { sessions := [sampleSession] }, 0, none⟩

theorem sampleListing_connected :
    Connected sampleInet (fun _ _ => false) sampleSettings sampleSession 5 5 sampleListing where
  reached := ⟨[.connect 1 ([49], 5001)], rfl⟩
  there := rfl
  fresh := fun r hr => absurd hr List.not_mem_nil
  wire := rfl
  unregistered := rfl
  timer := by constructor <;> norm_num [sampleListing]
  updated := by constructor <;> norm_num [sampleListing]
  pruned := by constructor <;> norm_num [sampleListing]

theorem letterA : 65 ∈ codeCharset := List.mem_cons_self

theorem letterB : 66 ∈ codeCharset := List.mem_cons_of_mem _ List.mem_cons_self

/-- A match starts; after ten seconds the entry says so. -/
def sampleListingRun : List (ListingAction (Bytes × UInt16)) :=
  [.deliver fun _ => sampleCode 65 letterA, .pass 5, .update, .prune,
    .changes 2 2 true fun _ => [], .pass 5, .update, .deliver fun _ => sampleCode 66 letterB,
    .prune, .deliver fun _ => sampleCode 66 letterB, .pass 5]

theorem room_stays_listed_ten_seconds :
    ∃ t : Listing (Bytes × UInt16), t.now = 15 ∧ t.rooms.responses.length = 2 ∧
      ∃ made facts, t.registered = some (made, facts) ∧ t.now ≤ made + (10 + 5 + 5) ∧
        ∃ e ∈ t.rooms.serverList,
          Shows sampleInet (fun _ _ => false) sampleSettings sampleSession facts e ∧
            ∀ r ∈ t.rooms.responses, r.host = 1 → e.roomCode = r.code := by
  have hrun : (Exec.exec (listingStep sampleInet (fun _ _ => false) sampleSettings 1)
      sampleListing sampleListingRun).any
        (fun t => decide (t.now = 15 ∧ t.rooms.responses.length = 2 ∧
          ∃ r ∈ t.rooms.responses, r.host = 1)) = true := by
    decide +kernel
  obtain ⟨t, ht, htest⟩ := Exec.exec_any hrun
  obtain ⟨hnow, hanswers, hanswered⟩ := of_decide_eq_true htest
  exact ⟨t, hnow, hanswers, room_stays_listed (by norm_num) (by norm_num) sampleListing_connected
    ⟨sampleListingRun, ht, by decide +kernel⟩ hanswered⟩

end Master
