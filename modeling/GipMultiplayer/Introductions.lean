import GipMultiplayer.PunchOffers
import GipMultiplayer.RoomRegistration

/-!
# Introductions

Two peers that cannot reach each other are introduced by the master.  A client
that joins gathers candidates, opens a session to the master, asks for a server
and waits for one answer; the master tells the host what the client gathered and
the client what the host registered, with one relay token for both; and each of
them punches.  Either may be late, give up or go away, and every other host and
client goes on meanwhile.

* `Join`, `step` — a client on its way, and all of them with the master and the
  hosts;
* `Introduced` — what is under way and every punch go back to an introduction;
* `introductions_pair` — a punch has one partner at most, and the roles differ.
-/

namespace Punch

open Master (Inet Candidate ServerInfo PunchRequest PunchExecute SessionId Rooms RoomAction roomStep
  punchRequest buildOffer splitHostPort clientIp Bytes)

/-! ## What the peers make of a packet -/

/-- What the socket library makes of addresses, and where the master is for a
client and for a host. -/
structure Net (Address : Type) extends Inet Address where
  isUnspecifiedHost : Address → Bool
  isValid : Address → Bool
  port : Address → UInt16
  masterAddress : Option Address
  targetMasterIp : Bytes

/-- `PunchOffer`. -/
structure PunchOffer (Address : Type) where
  candidates : List (Candidate Address)
  isInitiator : Bool
  timeout : ℚ := 10

/-- `gBrokerReply`. -/
structure BrokerReply (Address : Type) where
  hasCandidates : Bool := false
  isHost : Bool := false
  candidates : List (Candidate Address) := []

/-- What the handler of a join records of the packet. -/
def brokerReply {Address : Type} (p : PunchExecute Address) : BrokerReply Address :=
  { hasCandidates := true, isHost := p.isHost, candidates := p.candidates }

/-- `gStep`: a value that another thread brings. -/
structure GStep (α : Type) where
  done : Bool := false
  value : α

/-- `finish`, with a value or without. -/
def GStep.finish {α : Type} (s : GStep α) (value : Option α) : GStep α :=
  { done := true, value := value.getD s.value }

section

variable {Address : Type} (net : Net Address)

/-- A candidate of a client; the broker names its own host as unspecified. -/
def clientCandidate (candidate : Candidate Address) : Candidate Address :=
  match net.masterAddress with
  | some masterAddress =>
      if net.isUnspecifiedHost candidate.address then
        { candidate with address := net.withPort masterAddress (net.port candidate.address) }
      else candidate
  | none => candidate

/-- The offer that `joinSession` makes of the reply; none where it gives up. -/
def joinOffer (brokered : BrokerReply Address) : Option (PunchOffer Address) :=
  let candidates := brokered.candidates.map (clientCandidate net)
  if brokered.hasCandidates && !candidates.isEmpty then
    some { candidates := candidates, isInitiator := !brokered.isHost }
  else none

/-- `atMaster`. -/
def atMaster (address : Address) : Option Address :=
  if net.isUnspecifiedHost address then net.fromText net.targetMasterIp (net.port address)
  else some address

/-- A candidate of a host, if it can be used. -/
def hostCandidate (candidate : Candidate Address) : Option (Candidate Address) :=
  ((atMaster net candidate.address).filter net.isValid).map fun address =>
    { candidate with address := address }

/-- `OnPacket(gMasterPunchExecutePacket)` of a host whose punch socket is open:
its offer, if there is a candidate to use. -/
def hostOffer (p : PunchExecute Address) : Option (PunchOffer Address) :=
  let candidates := p.candidates.filterMap (hostCandidate net)
  if candidates.isEmpty then none
  else some { candidates := candidates, isInitiator := !p.isHost }

end

/-! ## The system -/

/-- How far a join is. -/
inductive Stage
  | gathering | brokering | over
  deriving DecidableEq

/-- `joinSession`: what it was called with, its two steps, and the request it has
sent that the master has not handled.  Written down for the law: the number of
the introduction that the reply is from. -/
structure Join (Address : Type) where
  targetIdentifier : Bytes
  localGamePort : UInt16
  gathered : GStep (List (Candidate Address)) := { value := [] }
  reply : GStep (BrokerReply Address) := { value := {} }
  number : Nat := 0
  requested : Bool := false
  request : Option (PunchRequest Address) := none
  stage : Stage := .gathering

/-- A handled request: who asked for what, the server that answered to it, and the
relay's candidate. -/
structure Introduction (Address : Type) where
  client : SessionId
  remote : Address
  request : PunchRequest Address
  target : ServerInfo Address
  relayed : Option (Candidate Address)

/-- A call of `Punch`, and the number of the introduction it is from. -/
structure Punched (Address : Type) where
  session : SessionId
  offer : PunchOffer Address
  number : Nat

/-- The master, the joins by the session that each is going to have, the packets
on their way to every session with the number of their introduction, all
introductions, and all calls of `Punch`. -/
structure System (Address : Type) where
  rooms : Rooms Address := {}
  joins : SessionId → Option (Join Address) := fun _ => none
  inbox : SessionId → List (Nat × PunchExecute Address) := fun _ => []
  introductions : List (Introduction Address) := []
  punched : List (Punched Address) := []

/-- What can happen: a client joins, has gathered, goes on or gives up the wait, is
connected, gets the answer, loses the master, goes on or gives up that wait; the
master handles its request, and the relay may have a candidate; a host gets a
packet, and its punch socket may be closed; and whatever else happens to the
rooms. -/
inductive Action (Address : Type)
  | join (id : SessionId) (targetIdentifier : Bytes) (localGamePort : UInt16)
  | gathered (id : SessionId) (candidates : List (Candidate Address))
  | gatherWaited (id : SessionId)
  | connected (id : SessionId) (remote : Address)
  | replied (id : SessionId)
  | lost (id : SessionId)
  | replyWaited (id : SessionId)
  | introduce (id : SessionId) (relay : Option (Address × Nat))
  | execute (id : SessionId) (socket : Bool)
  | rooms (action : RoomAction Address)

section

variable {Address : Type} (net : Net Address)

/-- The candidate of a relay allocation. -/
def relayedCandidate (relay : Address × Nat) : Candidate Address :=
  { type := .relayed, address := relay.1, relayToken := relay.2 }

/-- The packets that an introduction sends to its two sides. -/
def Introduction.packet (i : Introduction Address) (isHost : Bool) : PunchExecute Address :=
  if isHost then
    { candidates := buildOffer net.toInet (clientIp (net.readable i.remote))
        i.request.clientGamePort i.request.candidates i.relayed
      isHost := true }
  else
    { candidates := buildOffer net.toInet ((splitHostPort i.target.ip).getD ([], 0)).1
        ((splitHostPort i.target.ip).getD ([], 0)).2 i.target.candidates i.relayed
      isHost := false }

/-- The session of a side. -/
def Introduction.session (i : Introduction Address) (isHost : Bool) : SessionId :=
  if isHost then i.target.hostSession else i.client

/-- What a side punches with. -/
def Introduction.offer (i : Introduction Address) (isHost : Bool) : Option (PunchOffer Address) :=
  if isHost then hostOffer net (i.packet net true)
  else joinOffer net (brokerReply (i.packet net false))

/-- The request of a join. -/
def Join.asks (join : Join Address) : PunchRequest Address :=
  { targetIdentifier := join.targetIdentifier
    candidates := join.gathered.value
    clientGamePort := join.localGamePort }

/-- One join changes. -/
def System.setJoin (s : System Address) (id : SessionId) (join : Join Address) : System Address :=
  { s with joins := Function.update s.joins id (some join) }

/-- Packets are sent. -/
def System.send (s : System Address) (number : Nat)
    (packets : List (SessionId × PunchExecute Address)) : System Address :=
  { s with inbox := fun id =>
      s.inbox id ++ (packets.filter (·.1 = id)).map fun sent => (number, sent.2) }

/-- No join has the session, and what it does is no punch request. -/
def System.apart (s : System Address) : RoomAction Address → Bool
  | .connect id _ | .register id _ _ | .heartbeat id _ => (s.joins id).isNone
  | .disconnect _ | .update _ => true
  | .punchRequest .. => false

/-- The relay has given out the token before. -/
def System.allocated (s : System Address) (relayToken : Nat) : Bool :=
  s.introductions.any fun i => i.relayed.any (·.relayToken = relayToken)

/-- One step.  A session has a number of its own, and the relay a token for every
allocation. -/
def step (s : System Address) : Action Address → Option (System Address)
  | .join id targetIdentifier localGamePort =>
      if (s.joins id).isNone && s.rooms.sessions.all (·.id ≠ id) then
        some (s.setJoin id { targetIdentifier := targetIdentifier, localGamePort := localGamePort })
      else none
  | .gathered id candidates =>
      (s.joins id).bind fun join =>
        if join.gathered.done then none
        else some (s.setJoin id { join with gathered := join.gathered.finish (some candidates) })
  | .gatherWaited id =>
      (s.joins id).bind fun join =>
        if join.stage = .gathering then
          some (s.setJoin id
            { join with stage := if join.gathered.done then .brokering else .over })
        else none
  | .connected id remote =>
      (s.joins id).bind fun join =>
        if join.stage = .brokering ∧ join.requested = false then
          (roomStep net.toInet s.rooms (.connect id remote)).map fun rooms =>
            { s.setJoin id { join with requested := true, request := some join.asks } with
              rooms := rooms }
        else none
  | .replied id =>
      (s.joins id).bind fun join =>
        match s.inbox id with
        | [] => none
        | (number, p) :: rest =>
            some { s.setJoin id
                { join with
                  reply := join.reply.finish (some (brokerReply p))
                  number := number } with
              inbox := Function.update s.inbox id rest }
  | .lost id =>
      (s.joins id).map fun join =>
        s.setJoin id { join with reply := join.reply.finish none }
  | .replyWaited id =>
      (s.joins id).bind fun join =>
        -- the session is closed here, and the master notices when it does
        if join.stage = .brokering then
          some { s.setJoin id { join with stage := .over } with
            punched := s.punched ++ (joinOffer net join.reply.value).toList.map fun offer =>
              ⟨id, offer, join.number⟩ }
        else none
  | .introduce id relay =>
      (s.joins id).bind fun join => join.request.bind fun request =>
        (s.rooms.session? id).bind fun session =>
          if relay.all fun relay => !s.allocated relay.2 then
            let relayed := relay.map relayedCandidate
            let packets := punchRequest net.toInet s.rooms.alive relayed id session.remote
              s.rooms.serverList request
            let target := s.rooms.serverList.find? (·.answersTo request.targetIdentifier)
            some { (s.setJoin id { join with request := none }).send s.introductions.length
                packets with
              introductions := s.introductions ++
                (target.filter fun target => s.rooms.alive target.hostSession).toList.map
                  fun target => ⟨id, session.remote, request, target, relayed⟩ }
          else none
  | .execute id socket =>
      if (s.joins id).isNone then
        match s.inbox id with
        | [] => none
        | (number, p) :: rest =>
            some { s with
              inbox := Function.update s.inbox id rest
              punched := s.punched ++
                (if socket then (hostOffer net p).toList else []).map fun offer =>
                  ⟨id, offer, number⟩ }
      else none
  | .rooms action =>
      if s.apart action then
        (roomStep net.toInet s.rooms action).map fun rooms => { s with rooms := rooms }
      else none

/-! ## What an introduction brings about -/

/-- A session that is no join's. -/
def System.Hosts (s : System Address) (id : SessionId) : Prop :=
  (∃ session ∈ s.rooms.sessions, session.id = id) ∧ s.joins id = none

/-- An introduction of a client that asked to a host that answers. -/
structure Introduction.Fits (s : System Address) (i : Introduction Address) : Prop where
  asked : ∃ join, s.joins i.client = some join ∧ join.requested = true ∧
    join.gathered.done = true ∧ i.request = join.asks
  answers : i.target.answersTo i.request.targetIdentifier = true
  hosts : s.Hosts i.target.hostSession

/-- A join that is introduced once, by what it asked for. -/
structure Join.Fits (s : System Address) (id : SessionId) (join : Join Address) : Prop where
  gathered : join.stage = .brokering ∨ join.requested = true → join.gathered.done = true
  asked : ∀ request ∈ join.request, join.requested = true ∧ request = join.asks
  unanswered : join.requested = false ∨ join.request.isSome = true →
    ∀ i ∈ s.introductions, i.client ≠ id
  replied : join.reply.value.hasCandidates = true → ∃ i, s.introductions[join.number]? = some i ∧
    i.client = id ∧ join.reply.value = brokerReply (i.packet net false)
  waiting : join.stage ≠ .over → ∀ p ∈ s.punched, p.session ≠ id

/-- A punch of one side of an introduction. -/
structure Introduction.Made (i : Introduction Address) (p : Punched Address) : Prop where
  session : p.session = i.session !p.offer.isInitiator
  offer : i.offer net (!p.offer.isInitiator) = some p.offer

/-- The numbers of the introductions that a session has punched for, and of those
still in its inbox. -/
def System.numbers (s : System Address) (id : SessionId) : List Nat :=
  ((s.punched.filter (·.session = id)).map Punched.number) ++ (s.inbox id).map Prod.fst

/-- The introduction of a punch, and the side. -/
def Punched.key (p : Punched Address) : Nat × Bool := (p.number, p.offer.isInitiator)

/-- **Everything goes back to an introduction.** -/
structure Introduced (s : System Address) : Prop where
  listed : ∀ e ∈ s.rooms.serverList, s.Hosts e.hostSession
  introductions : ∀ i ∈ s.introductions, i.Fits s
  joins : ∀ id join, s.joins id = some join → join.Fits net s id
  inbox : ∀ id, ∀ sent ∈ s.inbox id, ∃ i, s.introductions[sent.1]? = some i ∧
    i.session (s.joins id).isNone = id ∧ sent.2 = i.packet net (s.joins id).isNone
  punched : ∀ p ∈ s.punched, ∃ i, s.introductions[p.number]? = some i ∧ i.Made net p
  order : ∀ id, s.joins id = none → (s.numbers id).Pairwise (· < ·)
  once : (s.punched.map Punched.key).Nodup
  clients : (s.introductions.map Introduction.client).Nodup
  tokens : s.introductions.Pairwise fun i j => ∀ c ∈ i.relayed, ∀ d ∈ j.relayed,
    c.relayToken ≠ d.relayToken

variable {net} {s : System Address} {id : SessionId} {join old : Join Address}
  {i : Introduction Address} {master : Rooms Address}

/-! ## The rest of the system -/

/-- The offers of the two sides differ in who initiates. -/
theorem offer_isInitiator {isHost : Bool} {offer : PunchOffer Address}
    (h : i.offer net isHost = some offer) : offer.isInitiator = !isHost := by
  unfold Introduction.offer at h
  cases isHost with
  | true =>
      rw [if_pos rfl] at h
      unfold hostOffer at h
      dsimp only at h
      split_ifs at h
      obtain rfl := Option.some.inj h
      rfl
  | false =>
      rw [if_neg Bool.false_ne_true] at h
      unfold joinOffer at h
      dsimp only at h
      split_ifs at h
      obtain rfl := Option.some.inj h
      rfl

theorem Introduction.Made.of_offer {isHost : Bool} {offer : PunchOffer Address} (number : Nat)
    (h : i.offer net isHost = some offer) : i.Made net ⟨i.session isHost, offer, number⟩ := by
  have hside := offer_isInitiator h
  refine ⟨?_, ?_⟩
  · dsimp only
    rw [hside, Bool.not_not]
  · dsimp only
    rw [hside, Bool.not_not]
    exact h

@[simp] theorem setJoin_self (s : System Address) (id : SessionId) (join : Join Address) :
    (s.setJoin id join).joins id = some join := Function.update_self ..

theorem setJoin_of_ne (s : System Address) (join : Join Address) {other : SessionId}
    (h : other ≠ id) : (s.setJoin id join).joins other = s.joins other :=
  Function.update_of_ne h ..

/-- A join does not become a host's. -/
theorem setJoin_isNone (hold : s.joins id = some old) (join : Join Address) (other : SessionId) :
    ((s.setJoin id join).joins other).isNone = (s.joins other).isNone := by
  by_cases heq : other = id
  · rw [heq, setJoin_self, hold]
    rfl
  · rw [setJoin_of_ne s join heq]

theorem System.Hosts.setJoin {host : SessionId} (h : s.Hosts host) (hne : host ≠ id)
    (join : Join Address) : (s.setJoin id join).Hosts host :=
  ⟨h.1, (setJoin_of_ne s join hne).trans h.2⟩

theorem System.Hosts.ne {host : SessionId} (h : s.Hosts host) (hold : s.joins id = some old) :
    host ≠ id := by
  rintro rfl
  cases h.2.symm.trans hold

/-- **A join changes.** -/
theorem Introduced.setJoin (h : Introduced net s) (hold : s.joins id = some old)
    (hfits : join.Fits net s id)
    (hsame : old.requested = true → old.gathered.done = true →
      join.requested = true ∧ join.gathered.done = true ∧ join.asks = old.asks) :
    Introduced net (s.setJoin id join) where
  listed e he := (h.listed e he).setJoin ((h.listed e he).ne hold) join
  introductions i hi := by
    obtain ⟨⟨asker, hasker, hrequested, hgathered, hrequest⟩, hanswers, hhosts⟩ :=
      h.introductions i hi
    refine ⟨?_, hanswers, hhosts.setJoin (hhosts.ne hold) join⟩
    by_cases heq : i.client = id
    · obtain rfl : asker = old := Option.some.inj (hasker.symm.trans (heq ▸ hold))
      obtain ⟨hafter, hdone, hasks⟩ := hsame hrequested hgathered
      exact ⟨join, heq ▸ setJoin_self s id join, hafter, hdone, hrequest.trans hasks.symm⟩
    · exact ⟨asker, (setJoin_of_ne s join heq).trans hasker, hrequested, hgathered, hrequest⟩
  joins other hjoin hother := by
    by_cases heq : other = id
    · subst heq
      obtain rfl : join = hjoin := Option.some.inj ((setJoin_self s other join).symm.trans hother)
      exact ⟨hfits.gathered, hfits.asked, hfits.unanswered, hfits.replied, hfits.waiting⟩
    · have hkept := h.joins other hjoin ((setJoin_of_ne s join heq).symm.trans hother)
      exact ⟨hkept.gathered, hkept.asked, hkept.unanswered, hkept.replied, hkept.waiting⟩
  inbox other sent hsent := by
    rw [setJoin_isNone hold]
    exact h.inbox other sent hsent
  punched := h.punched
  order other hother := by
    refine h.order other ?_
    have hnone := setJoin_isNone hold join other
    rw [hother] at hnone
    exact Option.isNone_iff_eq_none.mp hnone.symm
  once := h.once
  clients := h.clients
  tokens := h.tokens

/-- The rooms change. -/
theorem Introduced.rooms (h : Introduced net s)
    (hsessions : ∀ session ∈ s.rooms.sessions, ∃ later ∈ master.sessions, later.id = session.id)
    (hlisted : ∀ e ∈ master.serverList, { s with rooms := master }.Hosts e.hostSession) :
    Introduced net { s with rooms := master } where
  listed := hlisted
  introductions i hi := by
    obtain ⟨hasked, hanswers, ⟨session, hsession, hid⟩, hnone⟩ := h.introductions i hi
    obtain ⟨later, hlater, hsame⟩ := hsessions session hsession
    exact ⟨hasked, hanswers, ⟨later, hlater, hsame.trans hid⟩, hnone⟩
  joins other join hjoin := by
    have hkept := h.joins other join hjoin
    exact ⟨hkept.gathered, hkept.asked, hkept.unanswered, hkept.replied, hkept.waiting⟩
  inbox := h.inbox
  punched := h.punched
  order := h.order
  once := h.once
  clients := h.clients
  tokens := h.tokens

/-- A packet is taken off an inbox. -/
theorem Introduced.take (h : Introduced net s) {rest : List (Nat × PunchExecute Address)}
    (hrest : rest.Sublist (s.inbox id)) :
    Introduced net { s with inbox := Function.update s.inbox id rest } where
  listed := h.listed
  introductions i hi := by
    have hkept := h.introductions i hi
    exact ⟨hkept.asked, hkept.answers, hkept.hosts⟩
  joins other join hjoin := by
    have hkept := h.joins other join hjoin
    exact ⟨hkept.gathered, hkept.asked, hkept.unanswered, hkept.replied, hkept.waiting⟩
  inbox other sent hsent := by
    refine h.inbox other sent ?_
    dsimp only at hsent
    by_cases heq : other = id
    · subst heq
      rw [Function.update_self] at hsent
      exact hrest.subset hsent
    · rwa [Function.update_of_ne heq] at hsent
  punched := h.punched
  order other hother := by
    refine (h.order other hother).sublist (List.Sublist.append_left ?_ _)
    by_cases heq : other = id
    · subst heq
      dsimp only
      rw [Function.update_self]
      exact hrest.map _
    · dsimp only
      rw [Function.update_of_ne heq]
  once := h.once
  clients := h.clients
  tokens := h.tokens

/-- Nothing goes back to a session that is not there yet. -/
theorem Introduced.unused (h : Introduced net s) (hnone : s.joins id = none)
    (hsessions : ∀ session ∈ s.rooms.sessions, session.id ≠ id) :
    (∀ i ∈ s.introductions, i.client ≠ id ∧ i.target.hostSession ≠ id) ∧ s.inbox id = [] ∧
      ∀ p ∈ s.punched, p.session ≠ id := by
  have hapart : ∀ i ∈ s.introductions, i.client ≠ id ∧ i.target.hostSession ≠ id := by
    intro i hi
    obtain ⟨⟨join, hjoin, -⟩, -, ⟨session, hsession, hid⟩, -⟩ := h.introductions i hi
    refine ⟨?_, fun heq => hsessions session hsession (hid.trans heq)⟩
    rintro rfl
    cases hnone.symm.trans hjoin
  have hside : ∀ i ∈ s.introductions, ∀ isHost, i.session isHost ≠ id := by
    intro i hi isHost
    cases isHost with
    | true => exact (hapart i hi).2
    | false => exact (hapart i hi).1
  refine ⟨hapart, List.eq_nil_iff_forall_not_mem.mpr fun sent hsent => ?_, fun p hp heq => ?_⟩
  · obtain ⟨i, hi, hsession, -⟩ := h.inbox id sent hsent
    exact hside i (List.mem_of_getElem? hi) _ hsession
  · obtain ⟨i, hi, hmade⟩ := h.punched p hp
    exact hside i (List.mem_of_getElem? hi) _ (hmade.session.symm.trans heq)

/-- A client joins. -/
theorem Introduced.newJoin (h : Introduced net s) (hnone : s.joins id = none)
    (hsessions : ∀ session ∈ s.rooms.sessions, session.id ≠ id) (targetIdentifier : Bytes)
    (localGamePort : UInt16) :
    Introduced net (s.setJoin id
      { targetIdentifier := targetIdentifier, localGamePort := localGamePort }) := by
  obtain ⟨hapart, hinbox, hpunched⟩ := h.unused hnone hsessions
  have hne : ∀ {host : SessionId}, s.Hosts host → host ≠ id := by
    rintro host ⟨⟨session, hsession, hid⟩, -⟩ rfl
    exact hsessions session hsession hid
  refine
    { listed := fun e he => (h.listed e he).setJoin (hne (h.listed e he)) _
      introductions := fun i hi => ?_
      joins := fun other join hjoin => ?_
      inbox := fun other sent hsent => ?_
      punched := h.punched
      order := fun other hother => ?_
      once := h.once
      clients := h.clients
      tokens := h.tokens }
  · obtain ⟨⟨asker, hasker, hrest⟩, hanswers, hhosts⟩ := h.introductions i hi
    exact ⟨⟨asker, (setJoin_of_ne s _ (hapart i hi).1).trans hasker, hrest⟩, hanswers,
      hhosts.setJoin (hne hhosts) _⟩
  · by_cases heq : other = id
    · subst heq
      obtain rfl := Option.some.inj ((setJoin_self s other _).symm.trans hjoin)
      refine ⟨fun hlate => ?_, fun _ hrequest => ?_, fun _ i hi => (hapart i hi).1,
        fun hreply => ?_, fun _ => hpunched⟩
      · rcases hlate with hstage | hrequested
        · cases hstage
        · cases hrequested
      · cases hrequest
      · cases hreply
    · have hkept := h.joins other join ((setJoin_of_ne s _ heq).symm.trans hjoin)
      exact ⟨hkept.gathered, hkept.asked, hkept.unanswered, hkept.replied, hkept.waiting⟩
  · have heq : other ≠ id := by
      rintro rfl
      rw [show (s.setJoin other _).inbox other = [] from hinbox] at hsent
      cases hsent
    rw [setJoin_of_ne s _ heq]
    exact h.inbox other sent hsent
  · have heq : other ≠ id := by
      rintro rfl
      cases (setJoin_self s other _).symm.trans hother
    exact h.order other ((setJoin_of_ne s _ heq).symm.trans hother)

/-! ## Punches -/

/-- **A side punches**, for the first time for its introduction. -/
theorem Introduced.punch (h : Introduced net s) {number : Nat} {isHost : Bool}
    {offer : PunchOffer Address} (hi : s.introductions[number]? = some i)
    (hoffer : i.offer net isHost = some offer)
    (hjoin : ∀ join, s.joins (i.session isHost) = some join → join.stage = .over)
    (hfirst : ∀ p ∈ s.punched, p.session = i.session isHost → p.number ≠ number)
    (horder : s.joins (i.session isHost) = none →
      (((s.punched.filter (·.session = i.session isHost)).map Punched.number ++ [number]) ++
        (s.inbox (i.session isHost)).map Prod.fst).Pairwise (· < ·)) :
    Introduced net { s with punched := s.punched ++ [⟨i.session isHost, offer, number⟩] } where
  listed := h.listed
  introductions i hi := by
    have hkept := h.introductions i hi
    exact ⟨hkept.asked, hkept.answers, hkept.hosts⟩
  joins other join hother := by
    have hkept := h.joins other join hother
    refine ⟨hkept.gathered, hkept.asked, hkept.unanswered, hkept.replied, fun hstage p hp => ?_⟩
    rcases List.mem_append.mp hp with hold | hlast
    · exact hkept.waiting hstage p hold
    · obtain rfl := List.mem_singleton.mp hlast
      rintro rfl
      exact hstage (hjoin join hother)
  inbox := h.inbox
  punched p hp := by
    rcases List.mem_append.mp hp with hold | hlast
    · exact h.punched p hold
    · obtain rfl := List.mem_singleton.mp hlast
      exact ⟨i, hi, .of_offer number hoffer⟩
  order other hother := by
    unfold System.numbers
    dsimp only
    rw [List.filter_append, List.map_append]
    by_cases heq : i.session isHost = other
    · subst heq
      simpa using horder hother
    · simpa [heq, System.numbers] using h.order other hother
  once := by
    rw [List.map_append, List.nodup_append]
    refine ⟨h.once, List.nodup_singleton _, ?_⟩
    rintro key hkey last hlast rfl
    obtain ⟨p, hp, rfl⟩ := List.mem_map.mp hkey
    obtain ⟨hnumber, hside⟩ := Prod.mk.inj (List.mem_singleton.mp hlast)
    dsimp only at hnumber hside
    -- The earlier punch is of the same introduction, and of the same side.
    obtain ⟨earlier, hearlier, hmade⟩ := h.punched p hp
    obtain rfl : earlier = i := Option.some.inj (hearlier.symm.trans (hnumber ▸ hi))
    refine hfirst p hp ?_ hnumber
    rw [hmade.session, hside, offer_isInitiator hoffer, Bool.not_not]
  clients := h.clients
  tokens := h.tokens

/-! ## The rooms -/

/-- Sessions stay known. -/
theorem roomStep_sessions {rooms later : Rooms Address} {action : RoomAction Address}
    (h : roomStep net.toInet rooms action = some later) :
    ∀ session ∈ rooms.sessions, ∃ after ∈ later.sessions, after.id = session.id := by
  intro session hsession
  cases action with
  | connect id remote =>
      simp only [roomStep] at h
      split_ifs at h
      obtain rfl := Option.some.inj h
      exact ⟨session, List.mem_append_left _ hsession, rfl⟩
  | disconnect id =>
      obtain rfl := Option.some.inj h
      refine ⟨_, List.mem_map_of_mem hsession, ?_⟩
      split_ifs <;> rfl
  | register id p draw =>
      obtain ⟨_, -, rfl⟩ := Option.map_eq_some_iff.mp h
      exact ⟨session, hsession, rfl⟩
  | heartbeat id ip =>
      obtain ⟨_, -, rfl⟩ := Option.map_eq_some_iff.mp h
      exact ⟨session, hsession, rfl⟩
  | punchRequest id p =>
      obtain ⟨_, -, rfl⟩ := Option.map_eq_some_iff.mp h
      exact ⟨session, hsession, rfl⟩
  | update deltaTime =>
      simp only [roomStep] at h
      split_ifs at h
      obtain rfl := Option.some.inj h
      exact ⟨session, hsession, rfl⟩

/-- A listed server belongs to a session that registered. -/
theorem roomStep_hostSession {rooms later : Rooms Address} {action : RoomAction Address}
    (h : roomStep net.toInet rooms action = some later) {e : ServerInfo Address}
    (he : e ∈ later.serverList) :
    (∃ old ∈ rooms.serverList, old.hostSession = e.hostSession) ∨
      ∃ p draw, action = .register e.hostSession p draw ∧
        ∃ session ∈ rooms.sessions, session.id = e.hostSession := by
  have hregistered : ∀ {id : SessionId} {session : Master.ControlSession Address},
      rooms.session? id = some session → ∃ session ∈ rooms.sessions, session.id = id := by
    intro id session hsession
    have hfound := List.find?_some hsession
    simp only [Bool.and_eq_true, decide_eq_true_eq] at hfound
    exact ⟨session, List.mem_of_find?_eq_some hsession, hfound.1⟩
  have hlist := Master.roomStep_list h
  generalize later.serverList = l at hlist he
  cases hlist with
  | kept => exact .inl ⟨e, he, rfl⟩
  | refreshed p draw hsession hold hip =>
      rcases Master.mem_modifyServer he with hmem | ⟨old, hold, -, rfl⟩
      · exact .inl ⟨e, hmem, rfl⟩
      · exact .inr ⟨p, draw, rfl, hregistered hsession⟩
  | listed p draw hsession hnew =>
      rcases List.mem_append.mp he with hmem | hlast
      · exact .inl ⟨e, hmem, rfl⟩
      · obtain rfl := List.mem_singleton.mp hlast
        exact .inr ⟨p, draw, rfl, hregistered hsession⟩
  | heard id ip observed =>
      rcases Master.mem_modifyServer he with hmem | ⟨old, hold, -, rfl⟩
      · exact .inl ⟨e, hmem, rfl⟩
      · exact .inl ⟨old, hold, rfl⟩
  | pruned deltaTime =>
      obtain ⟨old, hold, rfl⟩ := Master.mem_pruneServers he
      exact .inl ⟨old, hold, rfl⟩

/-- What else happens to the rooms. -/
theorem Introduced.roomStep (h : Introduced net s) {action : RoomAction Address}
    (hstep : Master.roomStep net.toInet s.rooms action = some master)
    (hapart : ∀ id p draw, action = .register id p draw → s.joins id = none) :
    Introduced net { s with rooms := master } := by
  refine h.rooms (roomStep_sessions hstep) fun e he => ?_
  have hknown : ∀ session ∈ s.rooms.sessions, ∃ after ∈ master.sessions, after.id = session.id :=
    roomStep_sessions hstep
  have hkeeps : s.Hosts e.hostSession → { s with rooms := master }.Hosts e.hostSession := by
    rintro ⟨⟨session, hsession, hid⟩, hnone⟩
    obtain ⟨after, hafter, hsame⟩ := hknown session hsession
    exact ⟨⟨after, hafter, hsame.trans hid⟩, hnone⟩
  rcases roomStep_hostSession hstep he with ⟨old, hold, hsame⟩ | ⟨p, draw, haction, hsession⟩
  · exact hkeeps (hsame ▸ h.listed old hold)
  · exact hkeeps ⟨hsession, hapart _ p draw haction⟩

/-! ## An introduction -/

/-- Numbers are of introductions that were made. -/
theorem Introduced.numbers_lt (h : Introduced net s) {number : Nat}
    (hnumber : number ∈ s.numbers id) : number < s.introductions.length := by
  rcases List.mem_append.mp hnumber with hmem | hmem
  · obtain ⟨p, hp, rfl⟩ := List.mem_map.mp hmem
    obtain ⟨i, hi, -⟩ := h.punched p (List.mem_filter.mp hp).1
    exact (List.getElem?_eq_some_iff.mp hi).1
  · obtain ⟨sent, hsent, rfl⟩ := List.mem_map.mp hmem
    obtain ⟨i, hi, -⟩ := h.inbox id sent hsent
    exact (List.getElem?_eq_some_iff.mp hi).1

/-- Earlier introductions keep their numbers. -/
theorem getElem?_concat {number : Nat} {j : Introduction Address}
    (hj : s.introductions[number]? = some j) (i : Introduction Address) :
    (s.introductions ++ [i])[number]? = some j :=
  (List.getElem?_append_left (List.getElem?_eq_some_iff.mp hj).1).trans hj

/-- **Two peers are introduced.** -/
theorem Introduced.introduce (h : Introduced net s) (hfits : i.Fits s)
    (hjoin : ∀ join, s.joins i.client = some join → join.request = none)
    (hnew : ∀ j ∈ s.introductions, j.client ≠ i.client)
    (htokens : ∀ j ∈ s.introductions, ∀ c ∈ j.relayed, ∀ d ∈ i.relayed,
      c.relayToken ≠ d.relayToken) :
    Introduced net
      { s.send s.introductions.length
          [(i.session true, i.packet net true), (i.session false, i.packet net false)] with
        introductions := s.introductions ++ [i] } := by
  obtain ⟨asker, hasker, hrequested, -, -⟩ := hfits.asked
  refine
    { listed := h.listed
      introductions := fun j hj => ?_
      joins := fun other join hother => ?_
      inbox := fun other sent hsent => ?_
      punched := fun p hp => ?_
      order := fun other hother => ?_
      once := h.once
      clients := ?_
      tokens := ?_ }
  · rcases List.mem_append.mp hj with hold | hlast
    · have hkept := h.introductions j hold
      exact ⟨hkept.asked, hkept.answers, hkept.hosts⟩
    · obtain rfl := List.mem_singleton.mp hlast
      exact ⟨hfits.asked, hfits.answers, hfits.hosts⟩
  · have hkept := h.joins other join hother
    refine ⟨hkept.gathered, hkept.asked, fun hopen j hj => ?_, fun hreply => ?_, hkept.waiting⟩
    · rcases List.mem_append.mp hj with hold | hlast
      · exact hkept.unanswered hopen j hold
      · obtain rfl := List.mem_singleton.mp hlast
        rintro rfl
        obtain rfl := Option.some.inj (hasker.symm.trans hother)
        rw [hrequested, hjoin _ hother] at hopen
        rcases hopen with heq | heq <;> cases heq
    · obtain ⟨j, hj, hrest⟩ := hkept.replied hreply
      exact ⟨j, getElem?_concat hj i, hrest⟩
  · rcases List.mem_append.mp hsent with hold | hlast
    · obtain ⟨j, hj, hrest⟩ := h.inbox other sent hold
      exact ⟨j, getElem?_concat hj i, hrest⟩
    · obtain ⟨packet, hpacket, rfl⟩ := List.mem_map.mp hlast
      obtain ⟨hmem, hto⟩ := List.mem_filter.mp hpacket
      obtain rfl := of_decide_eq_true hto
      refine ⟨i, List.getElem?_concat_length, ?_⟩
      dsimp only [System.send]
      rcases List.mem_cons.mp hmem with rfl | hmem
      · have hnone : s.joins (i.session true) = none := hfits.hosts.2
        rw [hnone]
        exact ⟨rfl, rfl⟩
      · obtain rfl := List.mem_singleton.mp hmem
        have hsome : s.joins (i.session false) = some asker := hasker
        rw [hsome]
        exact ⟨rfl, rfl⟩
  · obtain ⟨j, hj, hrest⟩ := h.punched p hp
    exact ⟨j, getElem?_concat hj i, hrest⟩
  · have hne : i.session false ≠ other := by
      rintro rfl
      cases hasker.symm.trans hother
    have horder := h.order other hother
    unfold System.numbers at horder ⊢
    dsimp only [System.send]
    by_cases heq : i.session true = other
    · have hsent : ([(i.session true, i.packet net true),
          (i.session false, i.packet net false)].filter (·.1 = other)) =
          [(i.session true, i.packet net true)] := by simp [heq, hne]
      rw [hsent, List.map_append, ← List.append_assoc, List.pairwise_append]
      refine ⟨horder, List.pairwise_singleton _ _, fun number hnumber last hlast => ?_⟩
      obtain rfl := List.mem_singleton.mp hlast
      exact h.numbers_lt hnumber
    · have hsent : ([(i.session true, i.packet net true),
          (i.session false, i.packet net false)].filter (·.1 = other)) = [] := by simp [heq, hne]
      rw [hsent, List.map_nil, List.append_nil]
      exact horder
  · rw [List.map_append, List.nodup_append]
    refine ⟨h.clients, List.nodup_singleton _, ?_⟩
    rintro client hclient last hlast rfl
    obtain ⟨j, hj, hsame⟩ := List.mem_map.mp hclient
    exact hnew j hj (hsame.trans (List.mem_singleton.mp hlast))
  · rw [List.pairwise_append]
    refine ⟨h.tokens, List.pairwise_singleton _ _, fun j hj last hlast => ?_⟩
    obtain rfl := List.mem_singleton.mp hlast
    exact htokens j hj

@[simp] theorem send_nil (s : System Address) (number : Nat) : s.send number [] = s := by
  unfold System.send
  simp

/-! ## One step -/

/-- The master handles a request. -/
theorem Introduced.handle (h : Introduced net s) (hjoin : s.joins id = some join)
    {request : PunchRequest Address} (hrequest : join.request = some request) {remote : Address}
    {relay : Option (Address × Nat)} (hrelay : relay.all fun relay => !s.allocated relay.2) :
    Introduced net
      { (s.setJoin id { join with request := none }).send s.introductions.length
          (punchRequest net.toInet s.rooms.alive (relay.map relayedCandidate) id remote
            s.rooms.serverList request) with
        introductions := s.introductions ++
          ((s.rooms.serverList.find? (·.answersTo request.targetIdentifier)).filter
            fun target => s.rooms.alive target.hostSession).toList.map
              fun target => ⟨id, remote, request, target, relay.map relayedCandidate⟩ } := by
  have hfits := h.joins id join hjoin
  obtain ⟨hrequested, hasks⟩ := hfits.asked request hrequest
  have hdone := hfits.gathered (.inr hrequested)
  have hnew : ∀ j ∈ s.introductions, j.client ≠ id :=
    hfits.unanswered (.inr (by rw [hrequest]; rfl))
  have hcleared : Introduced net (s.setJoin id { join with request := none }) := by
    refine h.setJoin hjoin ⟨hfits.gathered, fun _ hnone => ?_, fun _ => hnew, hfits.replied,
      hfits.waiting⟩ fun _ _ => ⟨hrequested, hdone, rfl⟩
    cases hnone
  have hsilent : ∀ {packets : List (SessionId × PunchExecute Address)}
      {introductions : List (Introduction Address)}, packets = [] → introductions = [] →
      Introduced net { (s.setJoin id { join with request := none }).send s.introductions.length
        packets with introductions := s.introductions ++ introductions } := by
    rintro _ _ rfl rfl
    rw [send_nil, List.append_nil]
    exact hcleared
  unfold punchRequest
  cases hfound : s.rooms.serverList.find? (·.answersTo request.targetIdentifier) with
  | none => exact hsilent rfl rfl
  | some target =>
      dsimp only
      by_cases halive : s.rooms.alive target.hostSession = true
      · have htarget : target ∈ s.rooms.serverList := List.mem_of_find?_eq_some hfound
        have hhosts := (h.listed target htarget).setJoin ((h.listed target htarget).ne hjoin)
          { join with request := none }
        have hkept : (some target).filter (fun target => s.rooms.alive target.hostSession) =
            some target := Option.filter_some_pos halive
        rw [if_pos halive, hkept]
        refine hcleared.introduce (i := ⟨id, remote, request, target, relay.map relayedCandidate⟩)
          ⟨⟨_, setJoin_self .., hrequested, hdone, hasks⟩, ?_, hhosts⟩ (fun other hother => ?_)
          hnew fun j hj c hc d hd => ?_
        · simpa using List.find?_some hfound
        · obtain rfl := Option.some.inj ((setJoin_self s id _).symm.trans hother)
          rfl
        · obtain ⟨allocation, hallocation, rfl⟩ := Option.mem_map.mp hd
          have hfresh := hrelay
          rw [Option.mem_def.mp hallocation, Option.all_some, Bool.not_eq_true'] at hfresh
          rintro heq
          refine Bool.false_ne_true (hfresh.symm.trans (List.any_eq_true.mpr ⟨j, hj, ?_⟩))
          rw [Option.mem_def.mp hc, Option.any_some]
          exact decide_eq_true heq
      · have hdropped : (some target).filter (fun target => s.rooms.alive target.hostSession) =
            none :=
          Option.filter_some_neg (Bool.not_eq_true _ ▸ halive)
        rw [if_neg halive, hdropped]
        exact hsilent rfl rfl

/-- A host handles a packet. -/
theorem Introduced.execute (h : Introduced net s) (hnone : s.joins id = none) {number : Nat}
    {p : PunchExecute Address} {rest : List (Nat × PunchExecute Address)}
    (hinbox : s.inbox id = (number, p) :: rest) {offers : List (PunchOffer Address)}
    (hoffers : offers = [] ∨ ∃ offer, hostOffer net p = some offer ∧ offers = [offer]) :
    Introduced net
      { s with
        inbox := Function.update s.inbox id rest
        punched := s.punched ++ offers.map fun offer => ⟨id, offer, number⟩ } := by
  have htaken : Introduced net { s with inbox := Function.update s.inbox id rest } :=
    h.take (by rw [hinbox]; exact List.sublist_cons_self _ _)
  rcases hoffers with rfl | ⟨offer, hoffer, rfl⟩
  · rw [List.map_nil, List.append_nil]
    exact htaken
  · obtain ⟨i, hi, hsession, hpacket⟩ :=
      h.inbox id (number, p) (by rw [hinbox]; exact List.mem_cons_self)
    rw [hnone] at hsession hpacket
    obtain rfl : i.session true = id := hsession
    have horder := h.order _ hnone
    unfold System.numbers at horder
    rw [hinbox, List.map_cons] at horder
    have hmade : i.offer net true = some offer :=
      (congrArg (hostOffer net) hpacket.symm).trans hoffer
    refine htaken.punch hi hmade (fun join hjoin => ?_) (fun q hq hqsession => ?_) fun _ => ?_
    · cases hnone.symm.trans hjoin
    · have hlt := (List.pairwise_append.mp horder).2.2 q.number
        (List.mem_map_of_mem (List.mem_filter.mpr ⟨hq, decide_eq_true hqsession⟩)) number
        List.mem_cons_self
      exact hlt.ne
    · dsimp only
      rw [Function.update_self, List.append_assoc]
      exact horder

/-- A client has waited for its reply. -/
theorem Introduced.replyWaited (h : Introduced net s) (hjoin : s.joins id = some join)
    (hstage : join.stage = .brokering) :
    Introduced net
      { s.setJoin id { join with stage := .over } with
        punched := s.punched ++ (joinOffer net join.reply.value).toList.map fun offer =>
          ⟨id, offer, join.number⟩ } := by
  have hfits := h.joins id join hjoin
  have hwaiting := hfits.waiting (by rw [hstage]; exact Stage.noConfusion)
  have hover : Introduced net (s.setJoin id { join with stage := .over }) :=
    h.setJoin hjoin ⟨fun _ => hfits.gathered (.inl hstage), hfits.asked, hfits.unanswered,
      hfits.replied, fun hne => absurd rfl hne⟩ fun hrequested hdone => ⟨hrequested, hdone, rfl⟩
  cases hoffer : joinOffer net join.reply.value with
  | none =>
      rw [Option.toList_none, List.map_nil, List.append_nil]
      exact hover
  | some offer =>
      have hreplied : join.reply.value.hasCandidates = true := by
        unfold joinOffer at hoffer
        dsimp only at hoffer
        split_ifs at hoffer with hboth
        exact (Bool.and_eq_true_iff.mp hboth).1
      obtain ⟨i, hi, hclient, hreply⟩ := hfits.replied hreplied
      obtain rfl : i.session false = id := hclient
      have hmade : i.offer net false = some offer :=
        (congrArg (joinOffer net) hreply.symm).trans hoffer
      refine hover.punch hi hmade (fun other hother => ?_)
        (fun p hp hsession => absurd hsession (hwaiting p hp)) fun hnone => ?_
      · obtain rfl := Option.some.inj ((setJoin_self s _ _).symm.trans hother)
        rfl
      · cases (setJoin_self s _ _).symm.trans hnone

/-- **One step.** -/
theorem Introduced.step (h : Introduced net s) {t : System Address} {action : Action Address}
    (hstep : Punch.step net s action = some t) : Introduced net t := by
  cases action with
  | join id targetIdentifier localGamePort =>
      simp only [Punch.step] at hstep
      split_ifs at hstep with hfresh
      obtain rfl := Option.some.inj hstep
      rw [Bool.and_eq_true, Option.isNone_iff_eq_none, List.all_eq_true] at hfresh
      exact h.newJoin hfresh.1 (fun session hsession =>
        of_decide_eq_true (hfresh.2 session hsession)) targetIdentifier localGamePort
  | gathered id candidates =>
      obtain ⟨join, hjoin, hthen⟩ := Option.bind_eq_some_iff.mp hstep
      split_ifs at hthen with hdone
      obtain rfl := Option.some.inj hthen
      have hfits := h.joins id join hjoin
      refine h.setJoin hjoin ⟨fun _ => rfl, fun request hrequest => ?_, hfits.unanswered,
        hfits.replied, hfits.waiting⟩ fun _ hbefore => absurd hbefore hdone
      exact absurd (hfits.gathered (.inr (hfits.asked request hrequest).1)) hdone
  | gatherWaited id =>
      obtain ⟨join, hjoin, hthen⟩ := Option.bind_eq_some_iff.mp hstep
      rw [Option.ite_none_right_eq_some] at hthen
      obtain ⟨hstage, hthen⟩ := hthen
      obtain rfl := Option.some.inj hthen
      have hfits := h.joins id join hjoin
      refine h.setJoin hjoin ⟨fun hlate => ?_, hfits.asked, hfits.unanswered, hfits.replied,
        fun _ => hfits.waiting (by rw [hstage]; exact Stage.noConfusion)⟩
        fun hrequested hdone => ⟨hrequested, hdone, rfl⟩
      rcases hlate with hbrokering | hrequested
      · dsimp only at hbrokering
        split_ifs at hbrokering with hdone
        exact hdone
      · exact hfits.gathered (.inr hrequested)
  | connected id remote =>
      obtain ⟨join, hjoin, hthen⟩ := Option.bind_eq_some_iff.mp hstep
      split_ifs at hthen with hready
      obtain ⟨hstage, hrequested⟩ := hready
      obtain ⟨master, hmaster, rfl⟩ := Option.map_eq_some_iff.mp hthen
      have hfits := h.joins id join hjoin
      have hasked : Introduced net
          (s.setJoin id { join with requested := true, request := some join.asks }) := by
        refine h.setJoin hjoin ⟨fun _ => hfits.gathered (.inl hstage), fun request hrequest => ?_,
          fun _ => hfits.unanswered (.inl hrequested), hfits.replied, hfits.waiting⟩
          fun hbefore => ?_
        · obtain rfl := Option.some.inj hrequest
          exact ⟨rfl, rfl⟩
        · cases hrequested.symm.trans hbefore
      exact hasked.roomStep hmaster fun _ _ _ heq => by cases heq
  | replied id =>
      obtain ⟨join, hjoin, hthen⟩ := Option.bind_eq_some_iff.mp hstep
      split at hthen
      · cases hthen
      · next number p rest hinbox =>
          obtain rfl := Option.some.inj hthen
          have hfits := h.joins id join hjoin
          obtain ⟨i, hi, hsession, hpacket⟩ :=
            h.inbox id (number, p) (by rw [hinbox]; exact List.mem_cons_self)
          rw [hjoin] at hsession hpacket
          have hreplied : Introduced net (s.setJoin id
              { join with
                reply := join.reply.finish (some (brokerReply p))
                number := number }) :=
            h.setJoin hjoin ⟨hfits.gathered, hfits.asked, hfits.unanswered,
              fun _ => ⟨i, hi, hsession, congrArg brokerReply hpacket⟩, hfits.waiting⟩
              fun hrequested hdone => ⟨hrequested, hdone, rfl⟩
          exact hreplied.take (by
            rw [show (s.setJoin id _).inbox id = (number, p) :: rest from hinbox]
            exact List.sublist_cons_self _ _)
  | lost id =>
      obtain ⟨join, hjoin, rfl⟩ := Option.map_eq_some_iff.mp hstep
      have hfits := h.joins id join hjoin
      exact h.setJoin hjoin ⟨hfits.gathered, hfits.asked, hfits.unanswered, hfits.replied,
        hfits.waiting⟩ fun hrequested hdone => ⟨hrequested, hdone, rfl⟩
  | replyWaited id =>
      obtain ⟨join, hjoin, hthen⟩ := Option.bind_eq_some_iff.mp hstep
      split_ifs at hthen with hstage
      obtain rfl := Option.some.inj hthen
      exact h.replyWaited hjoin hstage
  | introduce id relay =>
      obtain ⟨join, hjoin, hthen⟩ := Option.bind_eq_some_iff.mp hstep
      obtain ⟨request, hrequest, hthen⟩ := Option.bind_eq_some_iff.mp hthen
      obtain ⟨session, -, hthen⟩ := Option.bind_eq_some_iff.mp hthen
      split_ifs at hthen with hrelay
      obtain rfl := Option.some.inj hthen
      exact h.handle hjoin hrequest hrelay
  | execute id socket =>
      simp only [Punch.step, Option.ite_none_right_eq_some] at hstep
      obtain ⟨hnone, hstep⟩ := hstep
      split at hstep
      · cases hstep
      · next number p rest hinbox =>
          obtain rfl := Option.some.inj hstep
          refine h.execute (Option.isNone_iff_eq_none.mp hnone) hinbox ?_
          cases socket with
          | false => exact .inl rfl
          | true =>
              cases hoffer : hostOffer net p with
              | none => exact .inl (by rw [if_pos rfl]; rfl)
              | some offer => exact .inr ⟨offer, rfl, by rw [if_pos rfl]; rfl⟩
  | rooms action =>
      simp only [Punch.step] at hstep
      split_ifs at hstep with hapart
      obtain ⟨master, hmaster, rfl⟩ := Option.map_eq_some_iff.mp hstep
      refine h.roomStep hmaster ?_
      rintro id p draw rfl
      exact Option.isNone_iff_eq_none.mp hapart

/-! ## The relay's token -/

/-- Only the relay's candidate is a relayed one. -/
theorem relayed_of_mem_buildOffer {inet : Inet Address} {observedIp : Bytes} {punchPort : UInt16}
    {gathered : List (Candidate Address)} {relayed : Option (Candidate Address)}
    {c : Candidate Address} (hc : c ∈ buildOffer inet observedIp punchPort gathered relayed)
    (htype : c.type = .relayed) : c ∈ relayed := by
  rw [Master.buildOffer_eq] at hc
  rcases List.mem_append.mp hc with hdirect | hlast
  · rcases List.mem_append.mp hdirect with hreflexive | hhost
    · cases htype.symm.trans (Master.reflexiveOffer_type (List.mem_of_mem_take hreflexive))
    · cases htype.symm.trans (Master.hostOffer_type (List.mem_of_mem_take hhost))
  · exact Option.mem_toList.mp hlast

theorem Introduction.relayed_of_mem_packet {isHost : Bool} {c : Candidate Address}
    (hc : c ∈ (i.packet net isHost).candidates) (htype : c.type = .relayed) : c ∈ i.relayed := by
  unfold Introduction.packet at hc
  cases isHost <;> exact relayed_of_mem_buildOffer hc htype

/-- A client may change the address of a candidate. -/
theorem clientCandidate_same (net : Net Address) (candidate : Candidate Address) :
    (clientCandidate net candidate).type = candidate.type ∧
      (clientCandidate net candidate).relayToken = candidate.relayToken := by
  unfold clientCandidate
  split
  · split_ifs <;> exact ⟨rfl, rfl⟩
  · exact ⟨rfl, rfl⟩

/-- **Both sides have the token of the relay**, and no other. -/
theorem Introduction.token_of_offer {isHost : Bool} {offer : PunchOffer Address}
    (h : i.offer net isHost = some offer) {c : Candidate Address} (hc : c ∈ offer.candidates)
    (htype : c.type = .relayed) : ∃ d ∈ i.relayed, d.relayToken = c.relayToken := by
  unfold Introduction.offer at h
  cases isHost with
  | true =>
      rw [if_pos rfl] at h
      unfold hostOffer at h
      dsimp only at h
      split_ifs at h
      obtain rfl := Option.some.inj h
      obtain ⟨told, htold, hsome⟩ := List.mem_filterMap.mp hc
      obtain ⟨address, -, rfl⟩ := Option.map_eq_some_iff.mp hsome
      exact ⟨told, relayed_of_mem_packet htold htype, rfl⟩
  | false =>
      rw [if_neg Bool.false_ne_true] at h
      unfold joinOffer at h
      dsimp only at h
      split_ifs at h
      obtain rfl := Option.some.inj h
      obtain ⟨told, htold, rfl⟩ := List.mem_map.mp hc
      obtain ⟨hsame, htoken⟩ := clientCandidate_same net told
      exact ⟨told, relayed_of_mem_packet htold (hsame.symm.trans htype), htoken.symm⟩

/-- A token is of one introduction. -/
theorem Introduced.number_eq (h : Introduced net s) {m n : Nat} {j : Introduction Address}
    (hi : s.introductions[m]? = some i) (hj : s.introductions[n]? = some j)
    {c d : Candidate Address} (hc : c ∈ i.relayed) (hd : d ∈ j.relayed)
    (htoken : c.relayToken = d.relayToken) : m = n := by
  obtain ⟨hm, rfl⟩ := List.getElem?_eq_some_iff.mp hi
  obtain ⟨hn, rfl⟩ := List.getElem?_eq_some_iff.mp hj
  have hpairwise := List.pairwise_iff_getElem.mp h.tokens
  rcases lt_trichotomy m n with hlt | heq | hlt
  · exact absurd htoken (hpairwise m n hm hn hlt c hc d hd)
  · exact heq
  · exact absurd htoken.symm (hpairwise n m hn hm hlt d hd c hc)

theorem introduced_start : Introduced net ({} : System Address) where
  listed e he := by cases he
  introductions i hi := by cases hi
  joins id join hjoin := by cases hjoin
  inbox id sent hsent := by cases hsent
  punched p hp := by cases hp
  order _ _ := List.Pairwise.nil
  once := List.nodup_nil
  clients := List.nodup_nil
  tokens := List.Pairwise.nil

/-- **Punches pair up.**  Whoever punches was introduced: a client, once, to the
host of a server that answers to what it asked for, and then it initiates; or that
host, which does not.  No side punches twice for one introduction, a host punches
in the order of its introductions, and who punches with the same token of the
relay was introduced to each other. -/
theorem introductions_pair (hreached : Exec.Reached (step net) {} s) :
    (∀ p ∈ s.punched, ∃ i, s.introductions[p.number]? = some i ∧ i.Fits s ∧ i.Made net p) ∧
      (s.introductions.map Introduction.client).Nodup ∧
      (s.punched.map Punched.key).Nodup ∧
      (∀ id, s.joins id = none →
        ((s.punched.filter (·.session = id)).map Punched.number).Pairwise (· < ·)) ∧
      ∀ p ∈ s.punched, ∀ q ∈ s.punched, ∀ c ∈ p.offer.candidates, ∀ d ∈ q.offer.candidates,
        c.type = .relayed → d.type = .relayed → c.relayToken = d.relayToken →
          p.number = q.number := by
  have h : Introduced net s :=
    hreached.invariant (Introduced net) introduced_start fun _ _ _ hs hstep => hs.step hstep
  refine ⟨fun p hp => ?_, h.clients, h.once, fun id hid => ?_,
    fun p hp q hq c hc d hd hctype hdtype htoken => ?_⟩
  · obtain ⟨i, hi, hmade⟩ := h.punched p hp
    exact ⟨i, hi, h.introductions i (List.mem_of_getElem? hi), hmade⟩
  · exact (List.pairwise_append.mp (h.order id hid)).1
  · obtain ⟨i, hi, hmadep⟩ := h.punched p hp
    obtain ⟨j, hj, hmadeq⟩ := h.punched q hq
    obtain ⟨x, hx, hxtoken⟩ := Introduction.token_of_offer hmadep.offer hc hctype
    obtain ⟨y, hy, hytoken⟩ := Introduction.token_of_offer hmadeq.offer hd hdtype
    exact h.number_eq hi hj hx hy (hxtoken.trans (htoken.trans hytoken.symm))

end

/-- Addresses with an unspecified host, to run the model with. -/
def sampleNet : Net (Bytes × UInt16) where
  toInet := Master.sampleInet
  isUnspecifiedHost address := address.1 = [48]
  isValid address := address.1 ≠ []
  port := Prod.snd
  masterAddress := some ([109], 25010)
  targetMasterIp := [109]

theorem codeLetter : 65 ∈ Master.codeCharset := List.mem_cons_self

/-- A host registers, and a client joins by its room code; the relay is at the
master. -/
def sampleIntroduction : List (Action (Bytes × UInt16)) :=
  [.rooms (.connect 1 ([49], 5001)),
    .rooms (.register 1 Master.sampleRegister fun _ => Master.sampleCode 65 codeLetter),
    .join 2 (List.replicate 6 65) 7, .gathered 2 [⟨.host, ([50], 7), 0⟩], .gatherWaited 2,
    .connected 2 ([51], 5002), .introduce 2 (some (([48], 25011), 77)), .replied 2,
    .replyWaited 2, .execute 1 true, .rooms (.disconnect 2)]

/-- The client initiates and the host accepts, with one token at one relay. -/
theorem introductions_pair_sample : ∃ s p q,
    Exec.exec (step sampleNet) {} sampleIntroduction = some s ∧ s.punched = [p, q] ∧
      (p.session = 2 ∧ p.offer.isInitiator = true) ∧
      (q.session = 1 ∧ q.offer.isInitiator = false) ∧
      (⟨.relayed, ([109], 25011), 77⟩ : Candidate (Bytes × UInt16)) ∈ p.offer.candidates ∧
      ⟨.relayed, ([109], 25011), 77⟩ ∈ q.offer.candidates ∧ p.number = q.number := by
  have hrun : (Exec.exec (step sampleNet) {} sampleIntroduction).any (fun s =>
      decide (s.punched.map (fun p => (p.session, p.offer.isInitiator)) = [(2, true), (1, false)] ∧
        ∀ p ∈ s.punched, (⟨.relayed, ([109], 25011), 77⟩ : Candidate (Bytes × UInt16)) ∈
          p.offer.candidates)) = true := by decide +kernel
  obtain ⟨s, hs, htest⟩ := Exec.exec_any hrun
  obtain ⟨hpunched, htokens⟩ := of_decide_eq_true htest
  obtain ⟨p, q, hpq⟩ : ∃ p q, s.punched = [p, q] := by
    have hlength := congrArg List.length hpunched
    rw [List.length_map] at hlength
    exact List.length_eq_two.mp hlength
  have hp : p ∈ s.punched := by rw [hpq]; exact List.mem_cons_self
  have hq : q ∈ s.punched := by rw [hpq]; exact List.mem_cons_of_mem _ (List.mem_singleton_self q)
  rw [hpq, List.map_cons, List.map_singleton] at hpunched
  obtain ⟨hfirst, hrest⟩ := List.cons.inj hpunched
  obtain ⟨hsecond, -⟩ := List.cons.inj hrest
  obtain ⟨-, -, -, -, hpair⟩ := introductions_pair ⟨_, hs⟩
  exact ⟨s, p, q, hs, hpq, Prod.mk.inj hfirst, Prod.mk.inj hsecond, htokens p hp, htokens q hq,
    hpair p hp q hq _ (htokens p hp) _ (htokens q hq) rfl rfl rfl⟩

end Punch
