import GipMultiplayer.VoiceRouterSteps

/-!
# Exact routing and server authority

Who receives an uplink, what the downlinks say and how the call is counted,
for every reachable router, sender and packet.

* `mem_handleVoicePacket` — a downlink is handed out exactly under the
  conditions of `Routes`, and it is the relayed packet;
* `handleVoicePacket_countedOnce` — each call is counted once, by its verdict;
* `canHear_iff` — between valid states the team-zero alternatives admit nobody;
* `exact_routing` — the law as a whole.
-/

namespace Voice

/-- The conditions under which `c`'s packet is relayed to `r`. -/
structure Routes (router : Router) (now : TimePoint) (c : ConnectionId) (packet : UplinkPacket)
    (r : ConnectionId) (sender listener : Peer) : Prop where
  valid : validateTeamVoiceUplinkPacket packet = .none
  registered : router.peers.lookup c = some sender
  published : sender.hasstate = true ∧ sender.controlpublished = true
  transmits : sender.state.cantransmit = true
  session : packet.sessionid = sender.state.sessionid
  generation : packet.membershipgeneration = sender.generation
  packetRate : 1 ≤ (refill router.config now sender).packettokens
  byteRate : (packet.payload.length : ℚ) ≤ (refill router.config now sender).bytetokens
  other : r ≠ c
  listening : router.peers.lookup r = some listener
  listenerPublished : listener.hasstate = true ∧ listener.controlpublished = true
  receives : listener.state.canreceive = true
  sameSession : listener.state.sessionid = sender.state.sessionid
  audible : router.hearEnemies = true ∨ listener.state.teamid = sender.state.teamid

/-- How `handleVoicePacket` disposes of a packet. -/
inductive Verdict
  | malformed | rejected | rateLimited | routed
  deriving DecidableEq, Repr

/-- The verdict on a packet, from the state before the call. -/
def verdict (router : Router) (now : TimePoint) (c : ConnectionId) (packet : UplinkPacket) :
    Verdict :=
  if validateTeamVoiceUplinkPacket packet ≠ .none then .malformed
  else
    match router.peers.lookup c with
    | none => .rejected
    | some sender =>
        if ¬ sender.maySend packet then .rejected
        else if ¬ coversRate router.config now sender packet.payload.length then .rateLimited
        else .routed

/-! ## Recipients -/

/-- The relay loop collects exactly the other connections that may hear. -/
theorem mem_recipients {router : Router} {c : ConnectionId} {senderstate : PeerState}
    {r : ConnectionId} {listener : Peer} :
    (r, listener) ∈ recipients router c senderstate ↔
      router.peers.lookup r = some listener ∧ r ≠ c ∧
        listener.mayHear router.hearEnemies senderstate = true := by
  simp only [recipients, List.mem_map, List.mem_filter, decide_eq_true_eq]
  constructor
  · rintro ⟨⟨d, peer⟩, ⟨hmem, hne, hhear⟩, heq⟩
    cases heq
    exact ⟨AList.mem_lookup_iff.mpr hmem, hne, hhear⟩
  · rintro ⟨hlookup, hne, hhear⟩
    exact ⟨⟨r, listener⟩, ⟨AList.mem_lookup_iff.mp hlookup, hne, hhear⟩, rfl⟩

/-- No connection is collected twice. -/
theorem recipients_nodup (router : Router) (c : ConnectionId) (senderstate : PeerState) :
    ((recipients router c senderstate).map Prod.fst).Nodup := by
  have hsub : ((recipients router c senderstate).map Prod.fst).Sublist router.peers.keys := by
    simp only [recipients, List.map_map]
    exact List.filter_sublist.map _
  exact hsub.nodup router.peers.keys_nodup

/-- **Team zero admits nobody.**  Between valid states, hearing is a matter of
the global switch and of equal teams. -/
theorem canHear_iff {hearEnemies : Bool} {peer senderstate : PeerState}
    (hpeer : isValidPeerState peer = true) (hsender : isValidPeerState senderstate = true) :
    canHear hearEnemies peer senderstate = true ↔
      hearEnemies = true ∨ peer.teamid = senderstate.teamid := by
  simp only [isValidPeerState, decide_eq_true_eq] at hpeer hsender
  simp [canHear, hpeer.2.1, hsender.2.1]

/-! ## The call as a whole -/

/-- A packet relayed for a sender speaks for its membership only. -/
theorem relayPacket_congr {packet : UplinkPacket} {sender sender' listener : Peer}
    (h : sender'.membership = sender.membership) :
    relayPacket packet sender' listener = relayPacket packet sender listener := by
  simp only [Peer.membership, Membership.mk.injEq] at h
  simp [relayPacket, h]

/-- Consuming succeeds exactly when the refilled buckets cover the packet. -/
@[simp] theorem consumeRate_snd (config : Config) (now : TimePoint) (peer : Peer)
    (bytes : Nat) :
    (consumeRate config now peer bytes).2 = coversRate config now peer bytes := by
  unfold consumeRate
  cases coversRate config now peer bytes <;> rfl

theorem coversRate_iff {config : Config} {now : TimePoint} {peer : Peer} {bytes : Nat} :
    coversRate config now peer bytes = true ↔
      1 ≤ (refill config now peer).packettokens ∧
        (bytes : ℚ) ≤ (refill config now peer).bytetokens := by
  simp [coversRate]

/-- The listeners the relay loop collects once the sender has been charged. -/
def listeners (router : Router) (now : TimePoint) (c : ConnectionId) (packet : UplinkPacket)
    (sender : Peer) : List (ConnectionId × Peer) :=
  let charged := (consumeRate router.config now sender packet.payload.length).1
  recipients { router with peers := router.peers.insert c charged } c charged.state

/-- The statistics a call leaves, by the verdict and the listeners. -/
def Verdict.count (packet : UplinkPacket) (sendOk : ConnectionId → Bool)
    (heard : List (ConnectionId × Peer)) (stats : Stats) : Verdict → Stats
  | .malformed => { stats with malformedpackets := stats.malformedpackets + 1 }
  | .rejected =>
      { stats with
        receivedpackets := stats.receivedpackets + 1
        receivedbytes := stats.receivedbytes + packet.payload.length
        routingrejections := stats.routingrejections + 1 }
  | .rateLimited =>
      { stats with
        receivedpackets := stats.receivedpackets + 1
        receivedbytes := stats.receivedbytes + packet.payload.length
        ratelimitedpackets := stats.ratelimitedpackets + 1 }
  | .routed =>
      heard.foldl (fun stats listener =>
          stats.countRelay packet.payload.length (sendOk listener.1))
        { stats with
          receivedpackets := stats.receivedpackets + 1
          receivedbytes := stats.receivedbytes + packet.payload.length }

/-- **The call, by its verdict.**  A packet that is not routed reaches nobody;
a routed one is relayed to the listeners of its sender. -/
theorem handleVoicePacket_cases (router : Router) (now : TimePoint) (c : ConnectionId)
    (packet : UplinkPacket) (sendOk : ConnectionId → Bool) :
    let called := handleVoicePacket router now c packet sendOk
    (verdict router now c packet ≠ .routed ∧ called.2 = [] ∧
      called.1.stats = (verdict router now c packet).count packet sendOk [] router.stats) ∨
    (verdict router now c packet = .routed ∧
      validateTeamVoiceUplinkPacket packet = .none ∧
      ∃ sender, router.peers.lookup c = some sender ∧ sender.maySend packet = true ∧
        coversRate router.config now sender packet.payload.length = true ∧
        called.1.stats = Verdict.routed.count packet sendOk
          (listeners router now c packet sender) router.stats ∧
        called.2 = (listeners router now c packet sender).map fun listener =>
          (listener.1, relayPacket packet sender listener.2)) := by
  intro called
  by_cases hvalid : validateTeamVoiceUplinkPacket packet = .none
  case neg =>
    have hverdict : verdict router now c packet = .malformed := by simp [verdict, hvalid]
    refine .inl ⟨by simp [hverdict], ?_, ?_⟩
    · simp [called, handleVoicePacket, hvalid]
    · simp [called, handleVoicePacket, hvalid, hverdict, Verdict.count, reportMalformedPacket]
  case pos =>
    cases hlookup : router.peers.lookup c with
    | none =>
        have hverdict : verdict router now c packet = .rejected := by
          simp [verdict, hvalid, hlookup]
        have hcall : called = ({ countReceived router packet with
            stats := Verdict.rejected.count packet sendOk [] router.stats }, []) := by
          simp [called, handleVoicePacket, routeVoicePacket, countReceived, hvalid, hlookup,
            Verdict.count]
        exact .inl ⟨by simp [hverdict], by rw [hcall], by rw [hcall, hverdict]⟩
    | some sender =>
        cases hsend : sender.maySend packet with
        | false =>
            have hverdict : verdict router now c packet = .rejected := by
              simp [verdict, hvalid, hlookup, hsend]
            refine .inl ⟨by simp [hverdict], ?_, ?_⟩
            · simp [called, handleVoicePacket, routeVoicePacket, countReceived, hvalid, hlookup,
                hsend]
            · simp [called, handleVoicePacket, routeVoicePacket, countReceived, hvalid, hlookup,
                hsend, hverdict, Verdict.count]
        | true =>
            cases hcover : coversRate router.config now sender packet.payload.length with
            | false =>
                have hverdict : verdict router now c packet = .rateLimited := by
                  simp [verdict, hvalid, hlookup, hsend, hcover]
                refine .inl ⟨by simp [hverdict], ?_, ?_⟩
                · simp [called, handleVoicePacket, routeVoicePacket, countReceived, hvalid,
                    hlookup, hsend, hcover]
                · simp [called, handleVoicePacket, routeVoicePacket, countReceived, hvalid,
                    hlookup, hsend, hcover, hverdict, Verdict.count]
            | true =>
                have hverdict : verdict router now c packet = .routed := by
                  simp [verdict, hvalid, hlookup, hsend, hcover]
                refine .inr ⟨hverdict, hvalid, sender, rfl, hsend, hcover, ?_, ?_⟩
                · simp [called, handleVoicePacket, routeVoicePacket, countReceived, hvalid,
                    hlookup, hsend, hcover, Verdict.count, listeners]
                  rfl
                · have hrelay : ∀ listener,
                      relayPacket packet (consumeRate router.config now sender
                        packet.payload.length).1 listener = relayPacket packet sender listener :=
                    fun listener => relayPacket_congr (consumeRate_membership ..)
                  simp [called, handleVoicePacket, routeVoicePacket, countReceived, hvalid,
                    hlookup, hsend, hcover, listeners, hrelay]
                  rfl

/-- The listeners of a routed packet, in the router before the call. -/
theorem mem_listeners {router : Router} {now : TimePoint} {c : ConnectionId}
    {packet : UplinkPacket} {sender : Peer} {r : ConnectionId} {listener : Peer} :
    (r, listener) ∈ listeners router now c packet sender ↔
      router.peers.lookup r = some listener ∧ r ≠ c ∧
        listener.mayHear router.hearEnemies sender.state = true := by
  have hsame := consumeRate_membership router.config now sender packet.payload.length
  simp only [Peer.membership, Membership.mk.injEq] at hsame
  rw [listeners, hsame.2.1, mem_recipients]
  constructor
  · rintro ⟨hlookup, hne, hhear⟩
    exact ⟨by rwa [AList.lookup_insert_ne hne] at hlookup, hne, hhear⟩
  · rintro ⟨hlookup, hne, hhear⟩
    exact ⟨by rwa [AList.lookup_insert_ne hne], hne, hhear⟩

theorem Peer.maySend_iff {sender : Peer} {packet : UplinkPacket} :
    sender.maySend packet = true ↔
      sender.hasstate = true ∧ sender.controlpublished = true ∧
      sender.state.cantransmit = true ∧ isValidPeerState sender.state = true ∧
      packet.sessionid = sender.state.sessionid ∧
      packet.membershipgeneration = sender.generation := by
  simp [Peer.maySend]

theorem Peer.mayHear_iff {peer : Peer} {hearEnemies : Bool} {senderstate : PeerState} :
    peer.mayHear hearEnemies senderstate = true ↔
      peer.hasstate = true ∧ peer.controlpublished = true ∧
      peer.state.canreceive = true ∧ isValidPeerState peer.state = true ∧
      peer.state.sessionid = senderstate.sessionid ∧
      canHear hearEnemies peer.state senderstate = true := by
  simp [Peer.mayHear]

/-- A registered peer of a well-formed router with a state has a valid one. -/
theorem Router.WellFormed.peer {router : Router} (h : router.WellFormed) {c : ConnectionId}
    {peer : Peer} (hpeer : router.peers.lookup c = some peer) (hstate : peer.hasstate = true) :
    isValidPeerState peer.state = true ∧ peer.generation ≠ 0 :=
  (h c _ (Router.membership_of_lookup hpeer)).valid hstate

/-- **Exact relay.**  In a well-formed router a downlink is handed out exactly
under the conditions of `Routes`, and it is the relayed packet. -/
theorem mem_handleVoicePacket {router : Router} (hrouter : router.WellFormed)
    (now : TimePoint) (c : ConnectionId) (packet : UplinkPacket)
    (sendOk : ConnectionId → Bool) (r : ConnectionId) (downlink : DownlinkPacket) :
    (r, downlink) ∈ (handleVoicePacket router now c packet sendOk).2 ↔
      ∃ sender listener, Routes router now c packet r sender listener ∧
        downlink = relayPacket packet sender listener := by
  constructor
  · intro hmem
    rcases handleVoicePacket_cases router now c packet sendOk with
      ⟨-, hnone, -⟩ | ⟨-, hvalid, sender, hsender, hsend, hcover, -, hrelay⟩
    · simp [hnone] at hmem
    · rw [hrelay] at hmem
      obtain ⟨⟨r', listener⟩, hlistener, heq⟩ := List.mem_map.mp hmem
      cases heq
      obtain ⟨hlookup, hne, hhear⟩ := mem_listeners.mp hlistener
      obtain ⟨hstate, hpub, htransmit, hvalidS, hsession, hgen⟩ := Peer.maySend_iff.mp hsend
      obtain ⟨hstateR, hpubR, hreceive, hvalidR, hsessionR, hcan⟩ := Peer.mayHear_iff.mp hhear
      obtain ⟨hpackets, hbytes⟩ := coversRate_iff.mp hcover
      exact ⟨sender, listener,
        { valid := hvalid, registered := hsender, published := ⟨hstate, hpub⟩
          transmits := htransmit, session := hsession, generation := hgen
          packetRate := hpackets, byteRate := hbytes, other := hne
          listening := hlookup, listenerPublished := ⟨hstateR, hpubR⟩
          receives := hreceive, sameSession := hsessionR
          audible := (canHear_iff hvalidR hvalidS).mp hcan }, rfl⟩
  · rintro ⟨sender, listener, h, rfl⟩
    have hvalidS := (hrouter.peer h.registered h.published.1).1
    have hvalidR := (hrouter.peer h.listening h.listenerPublished.1).1
    have hsend : sender.maySend packet = true :=
      Peer.maySend_iff.mpr ⟨h.published.1, h.published.2, h.transmits, hvalidS, h.session,
        h.generation⟩
    have hhear : listener.mayHear router.hearEnemies sender.state = true :=
      Peer.mayHear_iff.mpr ⟨h.listenerPublished.1, h.listenerPublished.2, h.receives, hvalidR,
        h.sameSession, (canHear_iff hvalidR hvalidS).mpr h.audible⟩
    have hcover : coversRate router.config now sender packet.payload.length = true :=
      coversRate_iff.mpr ⟨h.packetRate, h.byteRate⟩
    rcases handleVoicePacket_cases router now c packet sendOk with
      ⟨hverdict, -, -⟩ | ⟨-, -, sender', hsender', -, -, -, hrelay⟩
    · simp [verdict, h.valid, h.registered, hsend, hcover] at hverdict
    · obtain rfl : sender' = sender := Option.some.inj (hsender'.symm.trans h.registered)
      rw [hrelay]
      exact List.mem_map.mpr ⟨(r, listener), mem_listeners.mpr ⟨h.listening, h.other, hhear⟩, rfl⟩

/-- **Relayed packets are valid.**  What the router hands out passes the
validator that every receiver applies. -/
theorem Routes.downlink_valid {router : Router} (hrouter : router.WellFormed)
    {now : TimePoint} {c : ConnectionId} {packet : UplinkPacket} {r : ConnectionId}
    {sender listener : Peer} (h : Routes router now c packet r sender listener) :
    validateTeamVoiceDownlinkPacket (relayPacket packet sender listener) = .none := by
  obtain ⟨-, hflags, hsession, -, hstream, hpayload⟩ :=
    validateTeamVoiceUplinkPacket_none.mp h.valid
  obtain ⟨hvalid, hspeaker⟩ := hrouter.peer h.registered h.published.1
  obtain ⟨-, hlistener⟩ := hrouter.peer h.listening h.listenerPublished.1
  simp only [isValidPeerState, decide_eq_true_eq] at hvalid
  exact validateTeamVoiceDownlinkPacket_none.mpr
    ⟨rfl, hflags, hvalid.2.2, hlistener, hspeaker, hstream, hvalid.1, hpayload⟩

/-! ## Statistics -/

/-- The relay loop adds one to the relayed or the failed sends per listener and
touches no other packet counter. -/
theorem foldl_countRelay (bytes : Nat) (sendOk : ConnectionId → Bool)
    (heard : List (ConnectionId × Peer)) (stats : Stats) :
    let after := heard.foldl (fun stats listener =>
      stats.countRelay bytes (sendOk listener.1)) stats
    after.relayedpackets + after.sendfailures =
        stats.relayedpackets + stats.sendfailures + heard.length ∧
      after.receivedpackets = stats.receivedpackets ∧
      after.malformedpackets = stats.malformedpackets ∧
      after.routingrejections = stats.routingrejections ∧
      after.ratelimitedpackets = stats.ratelimitedpackets := by
  induction heard generalizing stats with
  | nil => simp
  | cons listener heard ih =>
      have hstep := ih (stats.countRelay bytes (sendOk listener.1))
      simp only [List.foldl_cons, List.length_cons]
      cases hok : sendOk listener.1 <;> simp only [hok, Stats.countRelay] at hstep ⊢ <;>
        grind

/-- A call is counted once: under its verdict, and under the outcome of each
send when it is routed. -/
structure CountedOnce (verdict : Verdict) (sends : Nat) (before after : Stats) : Prop where
  malformed : after.malformedpackets =
    before.malformedpackets + if verdict = .malformed then 1 else 0
  received : after.receivedpackets =
    before.receivedpackets + if verdict = .malformed then 0 else 1
  rejected : after.routingrejections =
    before.routingrejections + if verdict = .rejected then 1 else 0
  rateLimited : after.ratelimitedpackets =
    before.ratelimitedpackets + if verdict = .rateLimited then 1 else 0
  sent : after.relayedpackets + after.sendfailures =
    before.relayedpackets + before.sendfailures + sends

theorem Verdict.count_countedOnce (verdict : Verdict) (packet : UplinkPacket)
    (sendOk : ConnectionId → Bool) (heard : List (ConnectionId × Peer)) (stats : Stats)
    (hheard : verdict ≠ .routed → heard = []) :
    CountedOnce verdict heard.length stats (verdict.count packet sendOk heard stats) := by
  cases verdict with
  | malformed => constructor <;> simp [Verdict.count, hheard]
  | rejected => constructor <;> simp [Verdict.count, hheard]
  | rateLimited => constructor <;> simp [Verdict.count, hheard]
  | routed =>
      obtain ⟨hsent, hreceived, hmalformed, hrejected, hlimited⟩ :=
        foldl_countRelay packet.payload.length sendOk heard
          { stats with
            receivedpackets := stats.receivedpackets + 1
            receivedbytes := stats.receivedbytes + packet.payload.length }
      exact ⟨hmalformed, hreceived, hrejected, hlimited, hsent⟩

/-- Each call is counted once, and hands out nothing unless it is routed. -/
theorem handleVoicePacket_countedOnce (router : Router) (now : TimePoint) (c : ConnectionId)
    (packet : UplinkPacket) (sendOk : ConnectionId → Bool) :
    let called := handleVoicePacket router now c packet sendOk
    CountedOnce (verdict router now c packet) called.2.length router.stats called.1.stats ∧
      (verdict router now c packet ≠ .routed → called.2 = []) := by
  intro called
  rcases handleVoicePacket_cases router now c packet sendOk with
    ⟨hverdict, hnone, hstats⟩ | ⟨hverdict, -, sender, -, -, -, hstats, hrelay⟩
  · refine ⟨?_, fun _ => hnone⟩
    rw [hstats, hnone]
    exact Verdict.count_countedOnce _ packet sendOk [] router.stats fun _ => rfl
  · refine ⟨?_, fun hne => absurd hverdict hne⟩
    rw [hstats, hrelay, List.length_map, hverdict]
    exact Verdict.count_countedOnce _ packet sendOk _ router.stats fun hne => absurd rfl hne

/-- No connection is handed two downlinks by one call. -/
theorem handleVoicePacket_nodup (router : Router) (now : TimePoint) (c : ConnectionId)
    (packet : UplinkPacket) (sendOk : ConnectionId → Bool) :
    ((handleVoicePacket router now c packet sendOk).2.map Prod.fst).Nodup := by
  rcases handleVoicePacket_cases router now c packet sendOk with
    ⟨-, hnone, -⟩ | ⟨-, -, sender, -, -, -, -, hrelay⟩
  · simp [hnone]
  · rw [hrelay, List.map_map]
    exact recipients_nodup _ c _

/-! ## The law -/

/-- The law of one call: who receives, what is received and how it is
counted. -/
structure RoutingLaw (router : Router) (now : TimePoint) (c : ConnectionId)
    (packet : UplinkPacket) (sendOk : ConnectionId → Bool) : Prop where
  /-- `r` is handed a downlink exactly under the routing conditions. -/
  recipients : ∀ r,
    (∃ downlink, (r, downlink) ∈ (handleVoicePacket router now c packet sendOk).2) ↔
      ∃ sender listener, Routes router now c packet r sender listener
  /-- Nobody is handed two. -/
  once : ((handleVoicePacket router now c packet sendOk).2.map Prod.fst).Nodup
  /-- A downlink is valid, names its speaker and its recipient from server
  state, and copies the media fields of the uplink. -/
  content : ∀ r downlink,
    (r, downlink) ∈ (handleVoicePacket router now c packet sendOk).2 →
      validateTeamVoiceDownlinkPacket downlink = .none ∧
      ∃ sender listener, router.peers.lookup c = some sender ∧
        router.peers.lookup r = some listener ∧
        downlink.speakerid = sender.state.playerid ∧
        downlink.speakergeneration = sender.generation ∧
        downlink.sessionid = sender.state.sessionid ∧
        downlink.recipientgeneration = listener.generation ∧
        downlink.flags = packet.flags ∧
        downlink.streamgeneration = packet.streamgeneration ∧
        downlink.sequence = packet.sequence ∧
        downlink.sampleposition = packet.sampleposition ∧
        downlink.payload = packet.payload
  /-- The alternatives for team zero admit nobody. -/
  teamZero : ∀ r sender listener, router.peers.lookup c = some sender →
    sender.hasstate = true → router.peers.lookup r = some listener →
    listener.hasstate = true →
    (canHear router.hearEnemies listener.state sender.state = true ↔
      router.hearEnemies = true ∨ listener.state.teamid = sender.state.teamid)
  /-- The call is counted once. -/
  counted : CountedOnce (verdict router now c packet)
    (handleVoicePacket router now c packet sendOk).2.length router.stats
    (handleVoicePacket router now c packet sendOk).1.stats
  /-- Only a routed call hands out downlinks. -/
  silent : verdict router now c packet ≠ .routed →
    (handleVoicePacket router now c packet sendOk).2 = []

/-- **Exact routing and server authority.**  In every reachable router every
call of `handleVoicePacket` obeys the routing law. -/
theorem exact_routing {config : Config} {router : Router} (h : Reachable config router)
    (now : TimePoint) (c : ConnectionId) (packet : UplinkPacket)
    (sendOk : ConnectionId → Bool) : RoutingLaw router now c packet sendOk where
  recipients r := by
    simp only [mem_handleVoicePacket h.wellFormed]
    constructor
    · rintro ⟨_, sender, listener, hroutes, -⟩
      exact ⟨sender, listener, hroutes⟩
    · rintro ⟨sender, listener, hroutes⟩
      exact ⟨_, sender, listener, hroutes, rfl⟩
  once := handleVoicePacket_nodup router now c packet sendOk
  content r downlink hmem := by
    obtain ⟨sender, listener, hroutes, rfl⟩ :=
      (mem_handleVoicePacket h.wellFormed now c packet sendOk r downlink).mp hmem
    exact ⟨hroutes.downlink_valid h.wellFormed, sender, listener, hroutes.registered,
      hroutes.listening, rfl, rfl, rfl, rfl, rfl, rfl, rfl, rfl, rfl⟩
  teamZero r sender listener hsender hstateS hlistener hstateR :=
    canHear_iff (h.wellFormed.peer hlistener hstateR).1 (h.wellFormed.peer hsender hstateS).1
  counted := (handleVoicePacket_countedOnce router now c packet sendOk).1
  silent := (handleVoicePacket_countedOnce router now c packet sendOk).2

/-- Two players of one team: the second hears the first. -/
theorem exact_routing_two_players :
    let granted : PeerState := ⟨7, 1, 9, true, true⟩
    let hello : UplinkPacket :=
      { sessionid := 9, membershipgeneration := 1, streamgeneration := 1, payload := [0xf8] }
    let router := (setPeerState (setPeerState (addPeer (addPeer {} 0 1 true).1 0 2 true).1
      0 1 granted true).1 0 2 { granted with playerid := 8 } true).1
    RoutingLaw router 0 1 hello (fun _ => true) ∧
      ((handleVoicePacket router 0 1 hello fun _ => true).2.map Prod.fst) = [2] := by
  intro granted hello router
  have hreach : Reachable {} router :=
    ((Reachable.step (Reachable.step ⟨[], rfl⟩ (.addPeer 0 1 true))
      (.addPeer 0 2 true)).setPeerState 0 1 granted true).setPeerState 0 2
        { granted with playerid := 8 } true
  exact ⟨exact_routing hreach 0 1 hello fun _ => true, by decide +kernel⟩

end Voice
