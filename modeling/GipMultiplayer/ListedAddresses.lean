import GipMultiplayer.FirstMatch
import GipMultiplayer.RoomRegistration

/-!
# Listed addresses and punch requests

The list handler returns a server under its observed address, or a dedicated
server to a client behind the same public address under the first private
address of its own.  The punch handler selects the first server whose room code,
whose address or one of whose peer addresses is the identifier of the request.
Private addresses repeat from network to network and are whatever a host sends,
so an earlier server can answer to the address of a later one.

* `ServerInfo.Registered` — what registers put into the list, in any run;
* `ServerInfo.Registered.answersTo_iff` — a server answers to an address exactly
  if that is one of its peer addresses;
* `Resolves` — listed addresses lead to the listed servers;
* `listed_address_resolves` — they do exactly if no server has an address among
  its peers under which a later one is asked for.
-/

namespace Master

section

variable {Address : Type} {inet : Inet Address} {s t : Rooms Address}
  {l : List (ServerInfo Address)} {e : ServerInfo Address}

/-! ## The two handlers -/

/-- The address under which the list handler returns a server. -/
def listedAddress (inet : Inet Address) (remote : Address) (s : ServerInfo Address) : Bytes :=
  match s.peerCandidates with
  | _ :: privateIp :: _ =>
      if s.isDedicated && clientIp s.ip = clientIp (inet.readable remote) then privateIp else s.ip
  | _ => s.ip

/-- The list handler returns the server for a filter. -/
def ServerInfo.listable (matchStateFilter : Int32) (s : ServerInfo Address) : Bool :=
  !s.isPrivate && (matchStateFilter = -1 || s.matchState = matchStateFilter)

/-- The list handler returns each such server, under its listed address. -/
theorem getList_eq (inet : Inet Address) (remote : Address) (l : List (ServerInfo Address))
    (matchStateFilter : Int32) :
    getList inet remote l matchStateFilter =
      (l.filter (ServerInfo.listable matchStateFilter)).map fun s =>
        { s with ip := listedAddress inet remote s } := by
  unfold getList
  apply List.map_congr_left
  rintro ⟨ip, peers⟩ -
  rcases peers with _ | ⟨observed, _ | ⟨privateIp, rest⟩⟩
  · rfl
  · rfl
  · dsimp only [listedAddress]
    split_ifs <;> rfl

/-- The server that a punch request selects. -/
def punchTarget (serverList : List (ServerInfo Address)) (targetIdentifier : Bytes) :
    Option (ServerInfo Address) :=
  serverList.find? (·.answersTo targetIdentifier)

/-- A punch request goes to the host of the selected server and to nobody
else. -/
theorem punchRequest_host {alive : SessionId → Bool} {relayed : Option (Candidate Address)}
    {client : SessionId} {remote : Address} {p : PunchRequest Address} {m : PunchExecute Address}
    {host : SessionId} (hhost : m.isHost = true)
    (h : (host, m) ∈ punchRequest inet alive relayed client remote l p) :
    ∃ target, punchTarget l p.targetIdentifier = some target ∧ target.hostSession = host := by
  unfold punchRequest at h
  unfold punchTarget
  cases hfound : l.find? (·.answersTo p.targetIdentifier) with
  | none => simp only [hfound, List.not_mem_nil] at h
  | some target =>
      simp only [hfound] at h
      split_ifs at h
      · rcases List.mem_cons.mp h with heq | hlast
        · exact ⟨target, rfl, (Prod.mk.inj heq).1.symm⟩
        · obtain ⟨-, rfl⟩ := Prod.mk.inj (List.mem_singleton.mp hlast)
          cases hhost
      · cases h

/-! ## What registers put into the list -/

/-- A server as a register left it: under an address that the master observed,
with the peer addresses of its candidates and a room code that was drawn. -/
structure ServerInfo.Registered (inet : Inet Address) (e : ServerInfo Address) : Prop where
  observed : ∃ a, e.ip = inet.readable a
  peers : e.peerCandidates = peerAddresses inet e.ip e.candidates
  code : ∃ code : RoomCode, e.roomCode = code.val

/-- **Every listed server is as a register left it**, in any run. -/
theorem registered (h : Exec.Reached (roomStep inet) {} s) :
    ∀ e ∈ s.serverList, e.Registered inet := by
  refine h.invariant (fun s => ∀ e ∈ s.serverList, e.Registered inet)
    (fun e he => by cases he) fun s a t hs hstep => ?_
  have hlist := roomStep_list hstep
  generalize t.serverList = l at hlist
  intro e he
  cases hlist with
  | kept => exact hs e he
  | refreshed p draw hsession hlisted hip =>
      rcases mem_modifyServer he with hold | ⟨old, hold, -, rfl⟩
      · exact hs e hold
      · exact ⟨(hs old hold).observed, rfl, (hs old hold).code⟩
  | listed p draw hsession hnew =>
      rcases List.mem_append.mp he with hold | hlast
      · exact hs e hold
      · obtain rfl := List.mem_singleton.mp hlast
        obtain ⟨attempt, -, hcode⟩ := generateUniqueRoomCode_mem draw s.serverList
        exact ⟨⟨_, rfl⟩, rfl, draw attempt, hcode⟩
  | heard id ip observed =>
      rcases mem_modifyServer he with hold | ⟨old, hold, -, rfl⟩
      · exact hs e hold
      · exact ⟨(hs old hold).observed, (hs old hold).peers, (hs old hold).code⟩
  | pruned deltaTime =>
      obtain ⟨old, hold, rfl⟩ := mem_pruneServers he
      exact ⟨(hs old hold).observed, (hs old hold).peers, (hs old hold).code⟩

namespace ServerInfo.Registered

theorem ip_mem (h : e.Registered inet) : e.ip ∈ e.peerCandidates := by
  rw [h.peers]
  exact List.mem_cons_self

/-- Peer addresses have a colon. -/
theorem colon (h : e.Registered inet) (hreadable : ∀ a, 58 ∈ inet.readable a) {address : Bytes}
    (hmem : address ∈ e.peerCandidates) : 58 ∈ address := by
  obtain ⟨a, ha⟩ := h.observed
  rw [h.peers] at hmem
  exact colon_peerAddresses hreadable (ha ▸ hreadable a) e.candidates address hmem

/-- Room codes have none. -/
theorem roomCode_ne (h : e.Registered inet) {address : Bytes} (hcolon : 58 ∈ address) :
    e.roomCode ≠ address := by
  obtain ⟨code, hcode⟩ := h.code
  exact fun heq => noColon_of_roomCode code (hcode ▸ heq ▸ hcolon)

/-- **A server answers to an address** exactly if that is one of its peer
addresses. -/
theorem answersTo_iff (h : e.Registered inet) {address : Bytes} (hcolon : 58 ∈ address) :
    e.answersTo address = true ↔ address ∈ e.peerCandidates := by
  simp only [ServerInfo.answersTo, Bool.or_eq_true, decide_eq_true_eq, List.any_eq_true]
  constructor
  · rintro ((hroom | rfl) | ⟨c, hc, rfl⟩)
    · exact absurd hroom (h.roomCode_ne hcolon)
    · exact h.ip_mem
    · exact hc
  · exact fun hmem => Or.inr ⟨address, hmem, rfl⟩

end ServerInfo.Registered

/-! ## The law -/

/-- **Listed addresses lead to the listed servers**: whatever client asked for
the list, a punch request for an address of it selects the server that was
returned under it; and where a room code or an observed address is the
identifier, a server with such an exact match is selected. -/
structure Resolves (inet : Inet Address) (l : List (ServerInfo Address)) : Prop where
  listed : ∀ remote matchStateFilter,
    List.Forall₂ (fun s copy => copy = { s with ip := copy.ip } ∧ punchTarget l copy.ip = some s)
      (l.filter (ServerInfo.listable matchStateFilter))
      (getList inet remote l matchStateFilter)
  named : ∀ targetIdentifier,
    (∃ e ∈ l, e.roomCode = targetIdentifier ∨ e.ip = targetIdentifier) →
      ∃ target, punchTarget l targetIdentifier = some target ∧
        (target.roomCode = targetIdentifier ∨ target.ip = targetIdentifier)

/-- An earlier server has no address among its peers under which a later one is
asked for: its observed address, or, if it is dedicated and not private, the
first private address of its own. -/
def Unshadowed (earlier later : ServerInfo Address) : Prop :=
  later.ip ∉ earlier.peerCandidates ∧
    (later.isPrivate = false → later.isDedicated = true →
      ∀ privateIp ∈ later.peerCandidates[1]?, privateIp ∉ earlier.peerCandidates)

instance (earlier later : ServerInfo Address) : Decidable (Unshadowed earlier later) :=
  inferInstanceAs (Decidable (_ ∧ _))

/-- The addresses under which a server is asked for. -/
def ServerInfo.AskedFor (e : ServerInfo Address) (address : Bytes) : Prop :=
  address = e.ip ∨
    (e.isPrivate = false ∧ e.isDedicated = true ∧ e.peerCandidates[1]? = some address)

theorem unshadowed_iff {earlier later : ServerInfo Address} :
    Unshadowed earlier later ↔
      ∀ address, later.AskedFor address → address ∉ earlier.peerCandidates := by
  constructor
  · rintro ⟨hip, hprivate⟩ address (rfl | ⟨hlisted, hdedicated, hfirst⟩)
    · exact hip
    · exact hprivate hlisted hdedicated address hfirst
  · exact fun h => ⟨h later.ip (.inl rfl), fun hlisted hdedicated privateIp hfirst =>
      h privateIp (.inr ⟨hlisted, hdedicated, hfirst⟩)⟩

/-- A server is returned only under addresses under which it is asked for. -/
theorem askedFor_listedAddress (remote : Address) (hlisted : e.isPrivate = false) :
    e.AskedFor (listedAddress inet remote e) := by
  unfold listedAddress
  split
  case h_1 observed privateIp rest hpeers =>
    split_ifs with hsame
    · exact .inr ⟨hlisted, (Bool.and_eq_true_iff.mp hsame).1, by rw [hpeers]; rfl⟩
    · exact .inl rfl
  case h_2 => exact .inl rfl

/-- A client behind the same public address gets the private address. -/
theorem listedAddress_of_sameNat {remote : Address} {privateIp : Bytes}
    (hdedicated : e.isDedicated = true) (hfirst : e.peerCandidates[1]? = some privateIp)
    (hsame : e.ip = inet.readable remote) : listedAddress inet remote e = privateIp := by
  unfold listedAddress
  split
  case h_1 observed own rest hpeers =>
    rw [hpeers] at hfirst
    rw [hdedicated, hsame, decide_eq_true rfl, Bool.and_true, if_pos rfl]
    exact Option.some.inj hfirst
  case h_2 hshort =>
    match hpeers : e.peerCandidates with
    | [] => simp [hpeers] at hfirst
    | [observed] => simp [hpeers] at hfirst
    | observed :: own :: rest => exact absurd hpeers (hshort observed own rest)

/-- Of what the list handler returns, only the addresses matter. -/
theorem listed_iff (remote : Address) (matchStateFilter : Int32) :
    List.Forall₂ (fun s copy => copy = { s with ip := copy.ip } ∧ punchTarget l copy.ip = some s)
        (l.filter (ServerInfo.listable matchStateFilter))
        (getList inet remote l matchStateFilter) ↔
      ∀ s ∈ l, s.listable matchStateFilter = true →
        punchTarget l (listedAddress inet remote s) = some s := by
  rw [getList_eq, List.forall₂_map_right_iff, List.forall₂_same]
  constructor
  · exact fun h s hs hlistable => (h s (List.mem_filter.mpr ⟨hs, hlistable⟩)).2
  · exact fun h s hs => ⟨rfl, h s (List.mem_filter.mp hs).1 (List.mem_filter.mp hs).2⟩

section Lists

variable (hreadable : ∀ a, 58 ∈ inet.readable a) (hlist : ∀ e ∈ l, e.Registered inet)

include hreadable hlist

/-- A server answers to the addresses under which it is asked for, and these
have a colon. -/
theorem askedFor_mem (he : e ∈ l) {address : Bytes} (h : e.AskedFor address) :
    address ∈ e.peerCandidates ∧ 58 ∈ address := by
  have hmem : address ∈ e.peerCandidates := by
    rcases h with rfl | ⟨-, -, hfirst⟩
    · exact (hlist e he).ip_mem
    · exact List.mem_of_getElem? hfirst
  exact ⟨hmem, (hlist e he).colon hreadable hmem⟩

/-- The punch handler finds every server under the addresses under which it is
asked for exactly if no earlier one shadows it. -/
theorem finds_iff_unshadowed (hips : (l.map (·.ip)).Nodup) :
    FirstMatch.Finds ServerInfo.answersTo ServerInfo.AskedFor l ↔ l.Pairwise Unshadowed := by
  have hself : ∀ e ∈ l, ∀ address, e.AskedFor address → e.answersTo address = true := by
    intro e he address hasked
    obtain ⟨hmem, hcolon⟩ := askedFor_mem hreadable hlist he hasked
    exact ((hlist e he).answersTo_iff hcolon).mpr hmem
  refine (FirstMatch.finds_iff hips.of_map hself).trans
    (List.Pairwise.iff_of_mem fun {earlier later} hearlier hlater => ?_)
  refine Iff.trans (forall_congr' fun address => imp_congr_right fun hasked => ?_)
    unshadowed_iff.symm
  obtain ⟨-, hcolon⟩ := askedFor_mem hreadable hlist hlater hasked
  rw [← (hlist earlier hearlier).answersTo_iff hcolon, Bool.not_eq_true]

/-- **What the law asks of a list.** -/
theorem resolves_iff_finds (hips : (l.map (·.ip)).Nodup) :
    Resolves inet l ↔ FirstMatch.Finds ServerInfo.answersTo ServerInfo.AskedFor l := by
  constructor
  · rintro ⟨hlisted, hnamed⟩ e he address (rfl | ⟨hpublic, hdedicated, hfirst⟩)
    · obtain ⟨target, htarget, hroom | hip⟩ := hnamed e.ip ⟨e, he, .inr rfl⟩
      · have hmem := List.mem_of_find?_eq_some htarget
        have hcolon := (hlist e he).colon hreadable (hlist e he).ip_mem
        exact absurd hroom ((hlist target hmem).roomCode_ne hcolon)
      · obtain rfl := List.inj_on_of_nodup_map hips (List.mem_of_find?_eq_some htarget) he hip
        exact htarget
    · -- The master observed the server at some address, and so may a client be.
      obtain ⟨remote, hremote⟩ := (hlist e he).observed
      have hlistable : e.listable (-1) = true := by
        simp [ServerInfo.listable, hpublic]
      have hfound := (listed_iff remote (-1)).mp (hlisted remote (-1)) e he hlistable
      rwa [listedAddress_of_sameNat hdedicated hfirst hremote] at hfound
  · intro hfinds
    constructor
    · intro remote matchStateFilter
      refine (listed_iff remote matchStateFilter).mpr fun e he hlistable => ?_
      have hpublic : e.isPrivate = false := by
        simpa using (Bool.and_eq_true_iff.mp hlistable).1
      exact hfinds e he _ (askedFor_listedAddress remote hpublic)
    · rintro targetIdentifier ⟨e, he, rfl | rfl⟩
      · -- Only the server with a room code answers to it: addresses have a colon.
        have hanswers : e.answersTo e.roomCode = true := by simp [ServerInfo.answersTo]
        obtain ⟨target, htarget⟩ : ∃ target, punchTarget l e.roomCode = some target :=
          Option.isSome_iff_exists.mp (List.find?_isSome.mpr ⟨e, he, hanswers⟩)
        have hreg := hlist target (List.mem_of_find?_eq_some htarget)
        obtain ⟨code, hcode⟩ := (hlist e he).code
        have hno : 58 ∉ e.roomCode := hcode ▸ noColon_of_roomCode code
        refine ⟨target, htarget, ?_⟩
        have hfound : target.answersTo e.roomCode = true := by simpa using List.find?_some htarget
        simp only [ServerInfo.answersTo, Bool.or_eq_true, decide_eq_true_eq, List.any_eq_true]
          at hfound
        rcases hfound with hexact | ⟨c, hc, hpeer⟩
        · exact hexact
        · exact absurd (hpeer ▸ hreg.colon hreadable hc) hno
      · exact ⟨e, hfinds e he e.ip (.inl rfl), .inr rfl⟩

end Lists

/-- **A listed address resolves to the listed server** in a reached list exactly
if no server of the list has an address among its peers under which a later one
is asked for. -/
theorem listed_address_resolves (inet : Inet Address) (hreadable : ∀ a, 58 ∈ inet.readable a)
    (s : Rooms Address) (hs : Exec.Reached (roomStep inet) {} s) :
    Resolves inet s.serverList ↔ s.serverList.Pairwise Unshadowed :=
  (resolves_iff_finds hreadable (registered hs) (ips_nodup hs)).trans
    (finds_iff_unshadowed hreadable (registered hs) (ips_nodup hs))

end

/-- Two hosts behind public addresses of their own register dedicated servers,
each with the private address of its network. -/
def sampleNetworks (codes : RoomCode × RoomCode) (privateHost : Bytes) :
    List (RoomAction (Bytes × UInt16)) :=
  let registration (privateHost : Bytes) : RegisterPacket (Bytes × UInt16) :=
    { sampleRegister with
      isDedicated := true
      candidates := [{ type := .host, address := (privateHost, 25002) }] }
  [ .connect 1 ([49], 5001), .connect 2 ([50], 5002),
    .register 1 (registration [55]) fun _ => codes.1,
    .register 2 (registration privateHost) fun _ => codes.2 ]

/-- Two networks with private addresses of their own; a client in the second is
handed the private address. -/
theorem listed_address_resolves_two_networks :
    ∃ s, Exec.Reached (roomStep sampleInet) {} s ∧ Resolves sampleInet s.serverList ∧
      ((getList sampleInet ([50], 9) s.serverList (-1)).map (·.ip)) =
        [[49, 58, 50, 53, 48, 48, 50], [56, 58, 50, 53, 48, 48, 50]] := by
  let codes := (sampleCode 65 (by decide), sampleCode 66 (by decide))
  obtain ⟨s, hs, htest⟩ : ∃ s,
      Exec.exec (roomStep sampleInet) {} (sampleNetworks codes [56]) = some s ∧
      decide (s.serverList.Pairwise Unshadowed ∧
        ((getList sampleInet ([50], 9) s.serverList (-1)).map (·.ip)) =
          [[49, 58, 50, 53, 48, 48, 50], [56, 58, 50, 53, 48, 48, 50]]) = true :=
    Exec.exec_any (by decide +kernel)
  obtain ⟨hclear, hlist⟩ := of_decide_eq_true htest
  exact ⟨s, ⟨_, hs⟩,
    (listed_address_resolves sampleInet sampleInet_readable s ⟨_, hs⟩).mpr hclear, hlist⟩

/-- **Private addresses repeat.**  Two networks with the same private address: a
client in the second is handed it, and its punch request goes to the first. -/
theorem listed_address_shadowed :
    ¬ ∀ s, Exec.Reached (roomStep sampleInet) {} s → Resolves sampleInet s.serverList := by
  let codes := (sampleCode 65 (by decide), sampleCode 66 (by decide))
  obtain ⟨s, hs, htest⟩ : ∃ s,
      Exec.exec (roomStep sampleInet) {} (sampleNetworks codes [55]) = some s ∧
      decide (∃ e ∈ s.serverList, e.listable (-1) = true ∧
        (punchTarget s.serverList (listedAddress sampleInet ([50], 9) e)).map (·.ip) ≠
          some e.ip) = true :=
    Exec.exec_any (by decide +kernel)
  obtain ⟨e, he, hlistable, hother⟩ := of_decide_eq_true htest
  intro hlaw
  refine hother ?_
  rw [(listed_iff ([50], 9) (-1)).mp ((hlaw s ⟨_, hs⟩).listed ([50], 9) (-1)) e he hlistable]
  rfl

end Master
