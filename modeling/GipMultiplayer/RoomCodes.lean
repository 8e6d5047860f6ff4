import GipMultiplayer.MasterRooms

/-!
# Room codes

A host learns its room code from the register response, and a player who was
given the code is led to a host by a punch request.  The record behind a code
is found by the observed address of the host and overwritten in place by
whoever registers under that address next, so the code follows the address and
not the session: a second host behind the same public address that advertises
the same port takes the code over.

* `RoomInv` — which server stands behind the code of a response;
* `room_code_leads_home` — along every run in which nobody registers under the
  observed address of another live host, a room code leads to its host.
-/

namespace Master

section

variable {Address : Type}

/-! ## The law -/

/-- Nobody registers under the observed address of another host that is there
and keeps within the timeout. -/
def KeepsHosts (inet : Inet Address) (s : Rooms Address) : RoomAction Address → Prop
  | .register id p _ => ∀ session ∈ s.session? id, ∀ r ∈ s.responses, r.kept = true →
      s.alive r.host = true → r.ip = observedAddress inet session.remote p.ip → r.host = id
  | _ => True

/-- The generator repeats no room code. -/
def FreshCodes (s : Rooms Address) : RoomAction Address → Prop
  | .register _ _ draw => ∀ attempt < 33, (draw attempt).val ∉ s.codes
  | _ => True

instance (s : Rooms Address) : (a : RoomAction Address) → Decidable (FreshCodes s a)
  | .register _ _ draw => inferInstanceAs (Decidable (∀ attempt < 33, (draw attempt).val ∉ s.codes))
  | .connect _ _ | .disconnect _ | .heartbeat _ _ | .punchRequest _ _ | .update _ =>
      .isTrue trivial

instance (inet : Inet Address) (s : Rooms Address) :
    (a : RoomAction Address) → Decidable (KeepsHosts inet s a)
  | .register id p _ =>
      inferInstanceAs (Decidable (∀ session ∈ s.session? id, ∀ r ∈ s.responses, r.kept = true →
        s.alive r.host = true → r.ip = observedAddress inet session.remote p.ip → r.host = id))
  | .connect _ _ | .disconnect _ | .heartbeat _ _ | .punchRequest _ _ | .update _ =>
      .isTrue trivial

/-- A punch request for the code goes to the host and to no other session; the
client that asked gets its answer. -/
def LeadsHome (inet : Inet Address) (s : Rooms Address) (r : Response) : Prop :=
  ∀ client ∈ s.sessions, ∀ p : PunchRequest Address, p.targetIdentifier = r.code →
    ∀ relayed, ∃ offerHost offerClient,
      punchRequest inet s.alive relayed client.id client.remote s.serverList p =
        [ (r.host, { candidates := offerHost, isHost := true }),
          (client.id, { candidates := offerClient, isHost := false }) ]

/-! ## The invariant -/

/-- The server behind a response. -/
structure Behind (r : Response) (e : ServerInfo Address) : Prop where
  code : e.roomCode = r.code
  ip : e.ip = r.ip
  host : e.hostSession = r.host
  quiet : e.lastHeartbeat ≤ r.quiet

/-- What the master knows of the rooms: codes and addresses are distinct and
cannot be mistaken for one another, and behind every response whose host is
there and kept within the timeout stands the host's own server. -/
structure RoomInv (s : Rooms Address) : Prop where
  codes : (s.serverList.map (·.roomCode)).Nodup
  ips : (s.serverList.map (·.ip)).Nodup
  drawn : ∀ e ∈ s.serverList, e.roomCode ∈ s.codes
  noColon : ∀ code ∈ s.codes, 58 ∉ code
  colon : ∀ e ∈ s.serverList, 58 ∈ e.ip ∧ ∀ c ∈ e.peerCandidates, 58 ∈ c
  answered : ∀ r ∈ s.responses, r.code ∈ s.codes
  known : ∀ r ∈ s.responses, ∃ session ∈ s.sessions, session.id = r.host
  quiet : ∀ r ∈ s.responses, 0 ≤ r.quiet
  behind : ∀ r ∈ s.responses, r.kept = true → s.alive r.host = true →
    ∃ e ∈ s.serverList, Behind r e

variable {inet : Inet Address} {s : Rooms Address}

/-- A session is there when it is listed and alive. -/
theorem alive_iff {id : SessionId} :
    s.alive id = true ↔ ∃ session ∈ s.sessions, session.id = id ∧ session.alive = true := by
  simp [Rooms.alive, Rooms.session?]

/-- A room code has no colon. -/
theorem noColon_of_roomCode (code : RoomCode) : 58 ∉ code.val := fun h =>
  absurd (code.property.2 58 h) (by decide)

/-- The code of a new room was drawn. -/
theorem generateUniqueRoomCode_mem (draw : Nat → RoomCode)
    (serverList : List (ServerInfo Address)) :
    ∃ attempt < 33, generateUniqueRoomCode draw serverList = (draw attempt).val := by
  unfold generateUniqueRoomCode
  split
  case h_1 attempt hfound =>
    have hlt := List.mem_range.mp (List.mem_of_find?_eq_some hfound)
    exact ⟨attempt, by omega, rfl⟩
  case h_2 => exact ⟨32, by omega, rfl⟩

/-- The addresses of a peer are readable addresses. -/
theorem colon_peerAddresses (hreadable : ∀ a, 58 ∈ inet.readable a) {observed : Bytes}
    (hobserved : 58 ∈ observed) (candidates : List (Candidate Address)) :
    ∀ c ∈ peerAddresses inet observed candidates, 58 ∈ c := by
  intro c hc
  rcases List.mem_cons.mp hc with rfl | hc
  · exact hobserved
  · obtain ⟨candidate, -, rfl⟩ := List.mem_map.mp (List.mem_filter.mp hc).1
    exact hreadable _

/-! ## Changing one server -/

/-- The servers after a change of one. -/
theorem mem_modifyServer {ip : Bytes} {f : ServerInfo Address → ServerInfo Address}
    {l : List (ServerInfo Address)} {e : ServerInfo Address} (h : e ∈ modifyServer ip f l) :
    e ∈ l ∨ ∃ old ∈ l, old.ip = ip ∧ e = f old := by
  induction l with
  | nil => cases h
  | cons s rest ih =>
      unfold modifyServer at h
      split at h
      case isTrue hip =>
        rcases List.mem_cons.mp h with rfl | hrest
        · exact Or.inr ⟨s, List.mem_cons_self, hip, rfl⟩
        · exact Or.inl (List.mem_cons_of_mem _ hrest)
      case isFalse =>
        rcases List.mem_cons.mp h with rfl | hrest
        · exact Or.inl List.mem_cons_self
        · rcases ih hrest with hold | ⟨old, hold, hip, rfl⟩
          · exact Or.inl (List.mem_cons_of_mem _ hold)
          · exact Or.inr ⟨old, List.mem_cons_of_mem _ hold, hip, rfl⟩

/-- A change of one server keeps a column that it keeps of each. -/
theorem map_modifyServer {β : Type} {ip : Bytes} {f : ServerInfo Address → ServerInfo Address}
    {g : ServerInfo Address → β} (hg : ∀ e, g (f e) = g e) (l : List (ServerInfo Address)) :
    (modifyServer ip f l).map g = l.map g := by
  induction l with
  | nil => rfl
  | cons s rest ih =>
      unfold modifyServer
      split
      · rw [List.map_cons, List.map_cons, hg]
      · rw [List.map_cons, List.map_cons, ih]

/-- A server of another address is not changed. -/
theorem mem_modifyServer_of_ne {ip : Bytes} {f : ServerInfo Address → ServerInfo Address}
    {l : List (ServerInfo Address)} {e : ServerInfo Address} (he : e ∈ l) (hne : e.ip ≠ ip) :
    e ∈ modifyServer ip f l := by
  induction l with
  | nil => cases he
  | cons s rest ih =>
      unfold modifyServer
      rcases List.mem_cons.mp he with rfl | hrest
      · rw [if_neg hne]
        exact List.mem_cons_self
      · split
        · exact List.mem_cons_of_mem _ hrest
        · exact List.mem_cons_of_mem _ (ih hrest)

/-- Where addresses are distinct, the server of the address is changed. -/
theorem mem_modifyServer_self {ip : Bytes} {f : ServerInfo Address → ServerInfo Address}
    {l : List (ServerInfo Address)} (hips : (l.map (·.ip)).Nodup) {e : ServerInfo Address}
    (he : e ∈ l) (hip : e.ip = ip) : f e ∈ modifyServer ip f l := by
  induction l with
  | nil => cases he
  | cons s rest ih =>
      rw [List.map_cons, List.nodup_cons] at hips
      unfold modifyServer
      rcases List.mem_cons.mp he with rfl | hrest
      · rw [if_pos hip]
        exact List.mem_cons_self
      · have hne : s.ip ≠ ip := fun h =>
          hips.1 (List.mem_map.mpr ⟨e, hrest, hip.trans h.symm⟩)
        rw [if_neg hne]
        exact List.mem_cons_of_mem _ (ih hips.2 hrest)

/-- A column of a list with one more server is duplicate-free if the server
adds something new to it. -/
theorem nodup_map_concat {β : Type} {g : ServerInfo Address → β} {l : List (ServerInfo Address)}
    {e : ServerInfo Address} :
    ((l ++ [e]).map g).Nodup ↔ (l.map g).Nodup ∧ ∀ old ∈ l, g old ≠ g e := by
  rw [List.map_append, List.map_singleton, List.nodup_append]
  constructor
  · rintro ⟨hl, -, hne⟩
    exact ⟨hl, fun old hold => hne _ (List.mem_map_of_mem hold) _ (List.mem_singleton_self _)⟩
  · rintro ⟨hl, hne⟩
    refine ⟨hl, List.nodup_singleton _, fun a ha b hb => ?_⟩
    obtain ⟨old, hold, rfl⟩ := List.mem_map.mp ha
    obtain rfl := List.mem_singleton.mp hb
    exact hne old hold

/-! ## Pruning -/

/-- A server that is not pruned was listed. -/
theorem mem_pruneServers {alive : SessionId → Bool} {deltaTime : ℚ}
    {l : List (ServerInfo Address)} {e : ServerInfo Address}
    (h : e ∈ pruneServers alive deltaTime l) :
    ∃ old ∈ l, e = { old with lastHeartbeat := old.lastHeartbeat + deltaTime } := by
  obtain ⟨old, hold, rfl⟩ := List.mem_map.mp (List.mem_filter.mp h).1
  exact ⟨old, hold, rfl⟩

/-- Pruning takes entries out of a column that does not tell the time. -/
theorem map_pruneServers_sublist {β : Type} {g : ServerInfo Address → β}
    {alive : SessionId → Bool} {deltaTime : ℚ} {l : List (ServerInfo Address)}
    (hg : ∀ e : ServerInfo Address,
      g { e with lastHeartbeat := e.lastHeartbeat + deltaTime } = g e) :
    ((pruneServers alive deltaTime l).map g).Sublist (l.map g) := by
  have hmap : (l.map fun e : ServerInfo Address =>
      { e with lastHeartbeat := e.lastHeartbeat + deltaTime }).map g = l.map g := by
    rw [List.map_map]
    exact List.map_congr_left fun e _ => hg e
  rw [← hmap]
  exact List.filter_sublist.map _

/-! ## What the invariant says of a punch request -/

/-- Only the server with a room code answers to it. -/
theorem RoomInv.roomCode_of_answersTo (h : RoomInv s) {e : ServerInfo Address}
    (he : e ∈ s.serverList) {code : Bytes} (hcode : code ∈ s.codes)
    (hanswers : e.answersTo code = true) : e.roomCode = code := by
  obtain ⟨hip, hpeers⟩ := h.colon e he
  have hno := h.noColon code hcode
  simp only [ServerInfo.answersTo, Bool.or_eq_true, decide_eq_true_eq, List.any_eq_true]
    at hanswers
  rcases hanswers with (hroom | hsame) | ⟨c, hc, hsame⟩
  · exact hroom
  · exact absurd (hsame ▸ hip) hno
  · exact absurd (hsame ▸ hpeers c hc) hno

/-- The code of a response whose host is there and kept within the timeout
leads to the host. -/
theorem RoomInv.leadsHome (h : RoomInv s) {r : Response} (hr : r ∈ s.responses)
    (hkept : r.kept = true) (halive : s.alive r.host = true) : LeadsHome inet s r := by
  intro client _ p hp relayed
  obtain ⟨e, he, hcode, -, hhost, -⟩ := h.behind r hr hkept halive
  have hanswers : e.answersTo p.targetIdentifier = true := by
    simp [ServerInfo.answersTo, hcode, hp]
  obtain ⟨target, htarget⟩ : ∃ target,
      s.serverList.find? (·.answersTo p.targetIdentifier) = some target :=
    Option.isSome_iff_exists.mp (List.find?_isSome.mpr ⟨e, he, hanswers⟩)
  have hmem := List.mem_of_find?_eq_some htarget
  have hfound : target.answersTo p.targetIdentifier = true := by
    simpa using List.find?_some htarget
  have hroom : target.roomCode = r.code :=
    h.roomCode_of_answersTo hmem (h.answered r hr) (hp ▸ hfound)
  obtain rfl : target = e := List.inj_on_of_nodup_map h.codes hmem he (hroom.trans hcode.symm)
  unfold punchRequest
  rw [htarget]
  dsimp only
  rw [hhost, if_pos halive]
  exact ⟨_, _, rfl⟩

/-! ## Steps -/

/-- A sign of a host changes the quiet time of a response only. -/
theorem heard_eq (host : SessionId) (ip : Bytes) (r : Response) :
    (r.heard host ip).code = r.code ∧ (r.heard host ip).host = r.host ∧
      (r.heard host ip).ip = r.ip ∧ (r.heard host ip).kept = r.kept := by
  unfold Response.heard
  split <;> exact ⟨rfl, rfl, rfl, rfl⟩

/-- The server of a response after a sign of a host: the one that was behind
it, with its last heartbeat cleared if it is the server heard of. -/
theorem Behind.heard {r : Response} {e : ServerInfo Address} (h : Behind r e) {host : SessionId}
    {ip : Bytes} {f : ServerInfo Address → ServerInfo Address}
    (hf : (f e).roomCode = e.roomCode ∧ (f e).ip = e.ip ∧ (f e).lastHeartbeat = 0)
    (hhost : r.ip = ip → (f e).hostSession = r.host) (hquiet : 0 ≤ r.quiet)
    {l : List (ServerInfo Address)} (hips : (l.map (·.ip)).Nodup) (he : e ∈ l) :
    ∃ e' ∈ modifyServer ip f l, Behind (r.heard host ip) e' := by
  obtain ⟨hcode, hhostEq, hipEq, -⟩ := heard_eq host ip r
  by_cases hip : e.ip = ip
  · refine ⟨f e, mem_modifyServer_self hips he hip, ?_, ?_, ?_, ?_⟩
    · rw [hf.1, hcode, h.code]
    · rw [hf.2.1, hipEq, h.ip]
    · rw [hhostEq, hhost (h.ip.symm.trans hip)]
    · rw [hf.2.2]
      unfold Response.heard
      split
      · exact le_refl 0
      · exact hquiet
  · refine ⟨e, mem_modifyServer_of_ne he hip, ?_, ?_, ?_, ?_⟩
    · rw [hcode, h.code]
    · rw [hipEq, h.ip]
    · rw [hhostEq, h.host]
    · have hother : r.heard host ip = r :=
        if_neg fun hsame => hip (h.ip.trans hsame.2)
      rw [hother]
      exact h.quiet

/-- A sign of a host does not make a quiet time negative. -/
theorem quiet_heard {r : Response} (h : 0 ≤ r.quiet) (host : SessionId) (ip : Bytes) :
    0 ≤ (r.heard host ip).quiet := by
  unfold Response.heard
  split
  · exact le_refl 0
  · exact h

/-- The responses after a sign of a host say what they said. -/
theorem RoomInv.responses_heard (h : RoomInv s) (host : SessionId) (ip : Bytes) :
    (∀ r ∈ s.responses.map (Response.heard host ip), r.code ∈ s.codes) ∧
      (∀ r ∈ s.responses.map (Response.heard host ip),
        ∃ session ∈ s.sessions, session.id = r.host) ∧
      ∀ r ∈ s.responses.map (Response.heard host ip), 0 ≤ r.quiet := by
  refine ⟨fun r hr => ?_, fun r hr => ?_, fun r hr => ?_⟩ <;>
    obtain ⟨old, hold, rfl⟩ := List.mem_map.mp hr
  · rw [(heard_eq host ip old).1]
    exact h.answered old hold
  · rw [(heard_eq host ip old).2.1]
    exact h.known old hold
  · exact quiet_heard (h.quiet old hold) host ip

/-- A session connects. -/
theorem RoomInv.connect (h : RoomInv s) {id : SessionId} {remote : Address}
    (hnew : s.sessions.any (·.id = id) = false) :
    RoomInv { s with sessions := s.sessions ++ [{ id := id, remote := remote }] } where
  codes := h.codes
  ips := h.ips
  drawn := h.drawn
  noColon := h.noColon
  colon := h.colon
  answered := h.answered
  known := fun r hr => by
    obtain ⟨session, hsession, hid⟩ := h.known r hr
    exact ⟨session, List.mem_append_left _ hsession, hid⟩
  quiet := h.quiet
  behind := fun r hr hkept halive => by
    refine h.behind r hr hkept ?_
    obtain ⟨session, hsession, hid, hup⟩ := alive_iff.mp halive
    rcases List.mem_append.mp hsession with hold | hlast
    · exact alive_iff.mpr ⟨session, hold, hid, hup⟩
    · obtain rfl := List.mem_singleton.mp hlast
      obtain ⟨known, hknown, hknownId⟩ := h.known r hr
      refine absurd ?_ (Bool.eq_false_iff.mp hnew)
      exact List.any_eq_true.mpr ⟨known, hknown, by simpa using hknownId.trans hid.symm⟩

/-- A session is gone. -/
theorem RoomInv.disconnect (h : RoomInv s) (id : SessionId) :
    RoomInv { s with
      sessions := s.sessions.map fun session =>
        if session.id = id then { session with alive := false } else session } where
  codes := h.codes
  ips := h.ips
  drawn := h.drawn
  noColon := h.noColon
  colon := h.colon
  answered := h.answered
  known := fun r hr => by
    obtain ⟨session, hsession, hid⟩ := h.known r hr
    refine ⟨_, List.mem_map_of_mem hsession, ?_⟩
    split
    · exact hid
    · exact hid
  quiet := h.quiet
  behind := fun r hr hkept halive => by
    refine h.behind r hr hkept ?_
    obtain ⟨session', hsession, hid, hup⟩ := alive_iff.mp halive
    obtain ⟨session, hold, rfl⟩ := List.mem_map.mp hsession
    split at hup
    · cases hup
    case isFalse hne =>
      rw [if_neg hne] at hid
      exact alive_iff.mpr ⟨session, hold, hid, hup⟩

/-- A change of one server that leaves its code and its address alone. -/
theorem RoomInv.modify (h : RoomInv s) (ip : Bytes)
    {f : ServerInfo Address → ServerInfo Address} (hcode : ∀ e, (f e).roomCode = e.roomCode)
    (hip : ∀ e, (f e).ip = e.ip) :
    ((modifyServer ip f s.serverList).map (·.roomCode)).Nodup ∧
      ((modifyServer ip f s.serverList).map (·.ip)).Nodup ∧
      ∀ e ∈ modifyServer ip f s.serverList, e.roomCode ∈ s.codes := by
  refine ⟨?_, ?_, fun e he => ?_⟩
  · rw [map_modifyServer hcode]
    exact h.codes
  · rw [map_modifyServer hip]
    exact h.ips
  · rcases mem_modifyServer he with hold | ⟨old, hold, -, rfl⟩
    · exact h.drawn e hold
    · rw [hcode]
      exact h.drawn old hold

/-- A heartbeat. -/
theorem RoomInv.heartbeat (h : RoomInv s) (id : SessionId) (remote : Address) (ip : Bytes) :
    RoomInv { s with
      serverList := heartbeat inet remote s.serverList ip
      responses := s.responses.map (Response.heard id (observedAddress inet remote ip)) } := by
  obtain ⟨hanswered, hknown, hquiet⟩ := h.responses_heard id (observedAddress inet remote ip)
  obtain ⟨hcodes, hips, hdrawn⟩ := h.modify (observedAddress inet remote ip)
    (f := fun e => { e with lastHeartbeat := 0 }) (fun _ => rfl) fun _ => rfl
  constructor
  · exact hcodes
  · exact hips
  · exact hdrawn
  · exact h.noColon
  · intro e he
    rcases mem_modifyServer he with hold | ⟨old, hold, -, rfl⟩
    · exact h.colon e hold
    · exact h.colon old hold
  · exact hanswered
  · exact hknown
  · exact hquiet
  · intro r hr hkept halive
    obtain ⟨old, hold, rfl⟩ := List.mem_map.mp hr
    obtain ⟨-, hhost, -, hkeptEq⟩ := heard_eq id (observedAddress inet remote ip) old
    obtain ⟨e, he, hbehind⟩ := h.behind old hold (hkeptEq ▸ hkept) (hhost ▸ halive)
    exact hbehind.heard ⟨rfl, rfl, rfl⟩ (fun _ => hbehind.host) (h.quiet old hold) h.ips he

/-- Time passes, and silent and lost hosts are pruned. -/
theorem RoomInv.update (h : RoomInv s) {deltaTime : ℚ} (hpos : 0 ≤ deltaTime) :
    RoomInv { s with
      serverList := pruneServers s.alive deltaTime s.serverList
      responses := s.responses.map (Response.wait deltaTime) } := by
  constructor
  · exact h.codes.sublist (map_pruneServers_sublist fun _ => rfl)
  · exact h.ips.sublist (map_pruneServers_sublist fun _ => rfl)
  · intro e he
    obtain ⟨old, hold, rfl⟩ := mem_pruneServers he
    exact h.drawn old hold
  · exact h.noColon
  · intro e he
    obtain ⟨old, hold, rfl⟩ := mem_pruneServers he
    exact h.colon old hold
  · intro r hr
    obtain ⟨old, hold, rfl⟩ := List.mem_map.mp hr
    exact h.answered old hold
  · intro r hr
    obtain ⟨old, hold, rfl⟩ := List.mem_map.mp hr
    exact h.known old hold
  · intro r hr
    obtain ⟨old, hold, rfl⟩ := List.mem_map.mp hr
    exact add_nonneg (h.quiet old hold) hpos
  · intro r hr hkept halive
    obtain ⟨old, hold, rfl⟩ := List.mem_map.mp hr
    simp only [Response.wait, Bool.and_eq_true, decide_eq_true_eq] at hkept
    obtain ⟨e, he, hbehind⟩ := h.behind old hold hkept.1 halive
    have hquiet : e.lastHeartbeat + deltaTime ≤ old.quiet + deltaTime :=
      add_le_add_left hbehind.quiet _
    refine ⟨{ e with lastHeartbeat := e.lastHeartbeat + deltaTime },
      List.mem_filter.mpr ⟨List.mem_map_of_mem he, ?_⟩, hbehind.code, hbehind.ip, hbehind.host,
      hquiet⟩
    simp only [Bool.and_eq_true, decide_eq_true_eq]
    exact ⟨by rw [hbehind.host]; exact halive, hquiet.trans hkept.2⟩

/-- The responses after a registration has been answered. -/
theorem RoomInv.responses_answered (h : RoomInv s) {id : SessionId} {ip code : Bytes}
    (hsession : ∃ session ∈ s.sessions, session.id = id) {codes : List Bytes}
    (hcodes : s.codes ⊆ codes) (hcode : code ∈ codes) :
    let responses := s.responses.map (Response.heard id ip) ++
      [{ code := code, host := id, ip := ip }]
    (∀ r ∈ responses, r.code ∈ codes) ∧
      (∀ r ∈ responses, ∃ session ∈ s.sessions, session.id = r.host) ∧
      ∀ r ∈ responses, 0 ≤ r.quiet := by
  obtain ⟨hanswered, hknown, hquiet⟩ := h.responses_heard id ip
  refine ⟨?_, ?_, ?_⟩
  · exact List.forall_mem_append.mpr
      ⟨fun r hr => hcodes (hanswered r hr), List.forall_mem_singleton.mpr hcode⟩
  · exact List.forall_mem_append.mpr ⟨hknown, List.forall_mem_singleton.mpr hsession⟩
  · exact List.forall_mem_append.mpr ⟨hquiet, List.forall_mem_singleton.mpr le_rfl⟩

/-- A host registers again under an address that is listed. -/
theorem RoomInv.refresh (h : RoomInv s) (hreadable : ∀ a, 58 ∈ inet.readable a) {id : SessionId}
    {p : RegisterPacket Address} {ip : Bytes} {e₀ : ServerInfo Address}
    (hfound : s.serverList.find? (·.ip = ip) = some e₀)
    (hsession : ∃ session ∈ s.sessions, session.id = id)
    (hkeeps : ∀ r ∈ s.responses, r.kept = true → s.alive r.host = true → r.ip = ip → r.host = id) :
    RoomInv { s with
      serverList := modifyServer ip (ServerInfo.refresh inet p id) s.serverList
      responses := s.responses.map (Response.heard id ip) ++
        [{ code := e₀.roomCode, host := id, ip := ip }] } := by
  have he₀ : e₀ ∈ s.serverList := List.mem_of_find?_eq_some hfound
  obtain ⟨hanswered, hknown, hquiet⟩ := @RoomInv.responses_answered _ _ h id ip e₀.roomCode
    hsession s.codes (List.Subset.refl _) (h.drawn e₀ he₀)
  have hip₀ : e₀.ip = ip := by simpa using List.find?_some hfound
  obtain ⟨hcodes, hips, hdrawn⟩ := h.modify ip (f := ServerInfo.refresh inet p id)
    (fun _ => rfl) fun _ => rfl
  constructor
  · exact hcodes
  · exact hips
  · exact hdrawn
  · exact h.noColon
  · intro e he
    rcases mem_modifyServer he with hold | ⟨old, hold, -, rfl⟩
    · exact h.colon e hold
    · obtain ⟨hcolon, -⟩ := h.colon old hold
      exact ⟨hcolon, colon_peerAddresses hreadable hcolon _⟩
  · exact hanswered
  · exact hknown
  · exact hquiet
  · intro r hr hkept halive
    rcases List.mem_append.mp hr with hmapped | hnew
    · obtain ⟨old, hold, rfl⟩ := List.mem_map.mp hmapped
      obtain ⟨-, hhost, -, hkeptEq⟩ := heard_eq id ip old
      have hkeptOld : old.kept = true := hkeptEq ▸ hkept
      have haliveOld : s.alive old.host = true := hhost ▸ halive
      obtain ⟨e, he, hbehind⟩ := h.behind old hold hkeptOld haliveOld
      exact hbehind.heard ⟨rfl, rfl, rfl⟩
        (fun hsame => (hkeeps old hold hkeptOld haliveOld hsame).symm) (h.quiet old hold) h.ips he
    · obtain rfl := List.mem_singleton.mp hnew
      exact ⟨_, mem_modifyServer_self h.ips he₀ hip₀, rfl, hip₀, rfl, le_refl 0⟩

/-- A host registers under an address that is not listed. -/
theorem RoomInv.list (h : RoomInv s) (hreadable : ∀ a, 58 ∈ inet.readable a) {id : SessionId}
    {p : RegisterPacket Address} {ip code : Bytes} (hip : 58 ∈ ip)
    (hnew : ∀ e ∈ s.serverList, e.ip ≠ ip)
    (hsession : ∃ session ∈ s.sessions, session.id = id)
    (hfresh : code ∉ s.codes) (hcode : 58 ∉ code) :
    RoomInv { s with
      serverList := s.serverList ++ [ServerInfo.new inet p id ip code]
      responses := s.responses.map (Response.heard id ip) ++
        [{ code := code, host := id, ip := ip }]
      codes := s.codes ++ [code] } := by
  obtain ⟨hanswered, hknown, hquiet⟩ := @RoomInv.responses_answered _ _ h id ip code hsession
    (s.codes ++ [code]) (List.subset_append_left _ _)
    (List.mem_append_right _ (List.mem_singleton_self _))
  constructor
  · have hunused : ∀ e ∈ s.serverList, e.roomCode ≠ code := fun e he heq =>
      hfresh (heq ▸ h.drawn e he)
    exact nodup_map_concat.mpr ⟨h.codes, hunused⟩
  · exact nodup_map_concat.mpr ⟨h.ips, hnew⟩
  · intro e he
    rcases List.mem_append.mp he with hold | hlast
    · exact List.mem_append_left _ (h.drawn e hold)
    · obtain rfl := List.mem_singleton.mp hlast
      exact List.mem_append_right _ (List.mem_singleton_self _)
  · intro c hc
    rcases List.mem_append.mp hc with hold | hlast
    · exact h.noColon c hold
    · obtain rfl := List.mem_singleton.mp hlast
      exact hcode
  · intro e he
    rcases List.mem_append.mp he with hold | hlast
    · exact h.colon e hold
    · obtain rfl := List.mem_singleton.mp hlast
      exact ⟨hip, colon_peerAddresses hreadable hip _⟩
  · exact hanswered
  · exact hknown
  · exact hquiet
  · intro r hr hkept halive
    rcases List.mem_append.mp hr with hmapped | hlast
    · obtain ⟨old, hold, rfl⟩ := List.mem_map.mp hmapped
      obtain ⟨-, hhost, -, hkeptEq⟩ := heard_eq id ip old
      obtain ⟨e, he, hbehind⟩ := h.behind old hold (hkeptEq ▸ hkept) (hhost ▸ halive)
      have hother : old.heard id ip = old :=
        if_neg fun hsame => hnew e he (hbehind.ip.trans hsame.2)
      rw [hother]
      exact ⟨e, List.mem_append_left _ he, hbehind⟩
    · obtain rfl := List.mem_singleton.mp hlast
      exact ⟨_, List.mem_append_right _ (List.mem_singleton_self _), rfl, rfl, rfl, le_refl 0⟩

/-- Every action keeps the invariant, as long as codes are fresh and nobody
registers under the address of another host. -/
theorem RoomInv.step (hreadable : ∀ a, 58 ∈ inet.readable a) {t : Rooms Address}
    {a : RoomAction Address} (h : RoomInv s) (hok : FreshCodes s a ∧ KeepsHosts inet s a)
    (hstep : roomStep inet s a = some t) : RoomInv t := by
  cases a with
  | connect id remote =>
      simp only [roomStep] at hstep
      split at hstep
      · cases hstep
      case isFalse hnew =>
        obtain rfl := Option.some.inj hstep
        exact h.connect (Bool.eq_false_iff.mpr hnew)
  | disconnect id =>
      obtain rfl := Option.some.inj hstep
      exact h.disconnect id
  | register id p draw =>
      obtain ⟨session, hsession, rfl⟩ := Option.map_eq_some_iff.mp hstep
      obtain ⟨hfresh, hkeeps⟩ := hok
      have hlisted : ∃ session ∈ s.sessions, session.id = id := by
        refine ⟨session, List.mem_of_find?_eq_some hsession, ?_⟩
        have hmatch := List.find?_some hsession
        simp only [Bool.and_eq_true, decide_eq_true_eq] at hmatch
        exact hmatch.1
      dsimp only
      cases hfound : s.serverList.find? (·.ip = observedAddress inet session.remote p.ip) with
      | some e₀ =>
          have hany : s.serverList.any (·.ip = observedAddress inet session.remote p.ip) = true :=
            List.any_eq_true.mpr
              ⟨e₀, List.mem_of_find?_eq_some hfound, by simpa using List.find?_some hfound⟩
          simp only [registerServer, hfound, hany, if_true]
          exact h.refresh hreadable hfound hlisted (hkeeps session hsession)
      | none =>
          have hnew : ∀ e ∈ s.serverList, e.ip ≠ observedAddress inet session.remote p.ip := by
            simpa using List.find?_eq_none.mp hfound
          have hany : s.serverList.any (·.ip = observedAddress inet session.remote p.ip) = false := by
            simpa using hnew
          simp only [registerServer, hfound, hany, Bool.false_eq_true, if_false]
          obtain ⟨attempt, hlt, hdraw⟩ := generateUniqueRoomCode_mem draw s.serverList
          rw [hdraw]
          exact h.list hreadable (hreadable _) hnew hlisted (hfresh attempt hlt)
            (noColon_of_roomCode _)
  | heartbeat id ip =>
      obtain ⟨session, -, rfl⟩ := Option.map_eq_some_iff.mp hstep
      exact h.heartbeat id session.remote ip
  | punchRequest id p =>
      obtain ⟨session, -, rfl⟩ := Option.map_eq_some_iff.mp hstep
      exact h
  | update deltaTime =>
      simp only [roomStep] at hstep
      split at hstep
      case isTrue hpos =>
        obtain rfl := Option.some.inj hstep
        exact h.update hpos
      · cases hstep

/-- **A room code leads to its host.**  Along every run in which the generator
repeats no code and nobody registers under the observed address of another host
that is there and keeps within the timeout: as long as the host of a response
is there and has kept within the timeout, a punch request for the code goes to
the host and to no other session. -/
theorem room_code_leads_home (inet : Inet Address) (hreadable : ∀ a, 58 ∈ inet.readable a)
    (s : Rooms Address)
    (hs : Exec.ReachedAlong (roomStep inet) (fun s a => FreshCodes s a ∧ KeepsHosts inet s a) {} s)
    (r : Response) (hr : r ∈ s.responses) (hkept : r.kept = true)
    (halive : s.alive r.host = true) : LeadsHome inet s r := by
  have hinv : RoomInv s := by
    refine hs.invariant RoomInv ?_ fun s a t h hok hstep => h.step hreadable hok hstep
    constructor <;> simp
  exact hinv.leadsHome hr hkept halive

end

/-- Addresses of a host name and a port, to run the model with. -/
def sampleInet : Inet (Bytes × UInt16) where
  withPort a port := (a.1, port)
  readable a := a.1 ++ 58 :: (Nat.toDigits 10 a.2.toNat).map fun c => UInt8.ofNat c.toNat
  fromText host port := some (host, port)
  maxCandidates := 8

/-- A room code of one letter. -/
def sampleCode (letter : UInt8) (h : letter ∈ codeCharset) : RoomCode :=
  ⟨List.replicate 6 letter, rfl, fun _ hc => List.eq_of_mem_replicate hc ▸ h⟩

/-- The registration of the lobby that advertises `h:25002`. -/
def sampleRegister : RegisterPacket (Bytes × UInt16) where
  ip := [104, 58, 50, 53, 48, 48, 50]

/-- Host 1 and client 3 connect, host 1 registers, host 2 connects behind the
address `host` and registers with the same port, and ten seconds pass. -/
def sampleRooms (host : Bytes) : List (RoomAction (Bytes × UInt16)) :=
  [ .connect 1 ([49], 5001), .connect 3 ([51], 5003),
    .register 1 sampleRegister fun _ => sampleCode 65 (by decide),
    .connect 2 (host, 5002),
    .register 2 sampleRegister fun _ => sampleCode 66 (by decide),
    .update 10 ]

/-- The readable addresses of the sample have a colon. -/
theorem sampleInet_readable (a : Bytes × UInt16) : 58 ∈ sampleInet.readable a := by
  simp [sampleInet]

/-- Two hosts with public addresses of their own keep their codes. -/
theorem room_code_leads_home_two_hosts :
    ∃ s, Exec.Reached (roomStep sampleInet) {} s ∧ s.responses.length = 2 ∧
      ∀ r ∈ s.responses, LeadsHome sampleInet s r := by
  have hrun : (Exec.exec (roomStep sampleInet) {} (sampleRooms [50])).any (fun s =>
      decide (s.responses.length = 2 ∧ ∀ r ∈ s.responses, r.kept = true ∧ s.alive r.host = true))
      = true := by decide +kernel
  obtain ⟨s, hs, htest⟩ := Exec.exec_any hrun
  rw [decide_eq_true_eq] at htest
  refine ⟨s, ⟨_, hs⟩, htest.1, fun r hr => ?_⟩
  exact room_code_leads_home sampleInet sampleInet_readable s
    ⟨_, hs, by decide +kernel⟩ r hr (htest.2 r hr).1 (htest.2 r hr).2

/-- Behind one public address, the second host takes the code of the first
over: the first is there and within the timeout, but its code leads to the
second. -/
theorem room_code_taken_over :
    ∃ s, Exec.ReachedAlong (roomStep sampleInet) FreshCodes {} s ∧
      ∃ r ∈ s.responses, r.kept = true ∧ s.alive r.host = true ∧ ¬ LeadsHome sampleInet s r := by
  have hrun : (Exec.exec (roomStep sampleInet) {} (sampleRooms [49])).any (fun s =>
      decide (∃ r ∈ s.responses, (r.kept = true ∧ s.alive r.host = true) ∧ ∃ client ∈ s.sessions,
        (punchRequest sampleInet s.alive none client.id client.remote s.serverList
          { targetIdentifier := r.code }).map (·.1) ≠ [r.host, client.id])) = true := by
    decide +kernel
  obtain ⟨s, hs, htest⟩ := Exec.exec_any hrun
  obtain ⟨r, hr, ⟨hkept, halive⟩, client, hclient, hdiffers⟩ := of_decide_eq_true htest
  refine ⟨s, ⟨_, hs, by decide +kernel⟩, r, hr, hkept, halive, fun hhome => hdiffers ?_⟩
  obtain ⟨_, _, hpunch⟩ := hhome client hclient { targetIdentifier := r.code } rfl none
  rw [hpunch]
  rfl

end Master
