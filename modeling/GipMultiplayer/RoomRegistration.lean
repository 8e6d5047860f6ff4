import GipMultiplayer.RoomCodes

/-!
# Registration and distinct room codes

A register writes over the server that is listed under the observed address,
which keeps its code, or lists a new server under a code of
`GenerateUniqueRoomCode`.  That is the first of 32 draws that no server has, and
where all of them are taken one more draw, which is not looked at.

* `ListStep` — what an action does to the server list;
* `generateUniqueRoomCode_free_iff` — when the code of a new server is free;
* `ips_nodup` — no two servers are listed under one address, in any run;
* `room_codes_unique` — room codes stay distinct exactly along the runs in
  which every new server draws a free code; a server that registers again keeps
  its code in every run.
-/

namespace Master

section

variable {Address : Type} {inet : Inet Address} {s t : Rooms Address} {a : RoomAction Address}
  {l : List (ServerInfo Address)}

/-! ## What an action does to the server list -/

/-- The server list after an action. -/
inductive ListStep (inet : Inet Address) (s : Rooms Address) :
    RoomAction Address → List (ServerInfo Address) → Prop
  | kept (a : RoomAction Address) (hidle : ∀ id p draw, a ≠ .register id p draw) :
      ListStep inet s a s.serverList
  | refreshed {id : SessionId} (p : RegisterPacket Address) (draw : Nat → RoomCode)
      {session : ControlSession Address} {e : ServerInfo Address}
      (hsession : s.session? id = some session) (he : e ∈ s.serverList)
      (hip : e.ip = observedAddress inet session.remote p.ip) :
      ListStep inet s (.register id p draw)
        (modifyServer (observedAddress inet session.remote p.ip) (ServerInfo.refresh inet p id)
          s.serverList)
  | listed {id : SessionId} (p : RegisterPacket Address) (draw : Nat → RoomCode)
      {session : ControlSession Address} (hsession : s.session? id = some session)
      (hnew : ∀ e ∈ s.serverList, e.ip ≠ observedAddress inet session.remote p.ip) :
      ListStep inet s (.register id p draw)
        (s.serverList ++ [ServerInfo.new inet p id (observedAddress inet session.remote p.ip)
          (generateUniqueRoomCode draw s.serverList)])
  | heard (id : SessionId) (ip observed : Bytes) :
      ListStep inet s (.heartbeat id ip)
        (modifyServer observed (fun e => { e with lastHeartbeat := 0 }) s.serverList)
  | pruned (deltaTime : ℚ) :
      ListStep inet s (.update deltaTime) (pruneServers s.alive deltaTime s.serverList)

/-- **What each action does to the server list.** -/
theorem roomStep_list (h : roomStep inet s a = some t) : ListStep inet s a t.serverList := by
  cases a with
  | connect id remote =>
      simp only [roomStep] at h
      split_ifs at h
      obtain rfl := Option.some.inj h
      exact .kept _ fun _ _ _ heq => by cases heq
  | disconnect id =>
      obtain rfl := Option.some.inj h
      exact .kept _ fun _ _ _ heq => by cases heq
  | register id p draw =>
      obtain ⟨session, hsession, rfl⟩ := Option.map_eq_some_iff.mp h
      dsimp only [registerServer]
      cases hfound : s.serverList.find? (·.ip = observedAddress inet session.remote p.ip) with
      | some e =>
          have hip : e.ip = observedAddress inet session.remote p.ip := by
            simpa using List.find?_some hfound
          exact .refreshed p draw hsession (List.mem_of_find?_eq_some hfound) hip
      | none =>
          have hnew : ∀ e ∈ s.serverList, e.ip ≠ observedAddress inet session.remote p.ip := by
            simpa using List.find?_eq_none.mp hfound
          exact .listed p draw hsession hnew
  | heartbeat id ip =>
      obtain ⟨session, -, rfl⟩ := Option.map_eq_some_iff.mp h
      exact .heard id ip _
  | punchRequest id p =>
      obtain ⟨session, -, rfl⟩ := Option.map_eq_some_iff.mp h
      exact .kept _ fun _ _ _ heq => by cases heq
  | update deltaTime =>
      simp only [roomStep] at h
      split_ifs at h
      obtain rfl := Option.some.inj h
      exact .pruned deltaTime

/-- The action lists a new server. -/
def Lists (inet : Inet Address) (s : Rooms Address) (a : RoomAction Address)
    (l : List (ServerInfo Address)) : Prop :=
  ∃ id session p draw, a = .register id p draw ∧ s.session? id = some session ∧
    (∀ e ∈ s.serverList, e.ip ≠ observedAddress inet session.remote p.ip) ∧
    l = s.serverList ++ [ServerInfo.new inet p id (observedAddress inet session.remote p.ip)
      (generateUniqueRoomCode draw s.serverList)]

/-- Unless a new server is listed, a column that neither a register nor time
writes only loses entries. -/
theorem ListStep.column (h : ListStep inet s a l) {β : Type} {g : ServerInfo Address → β}
    (hrefresh : ∀ p id e, g (ServerInfo.refresh inet p id e) = g e)
    (htime : ∀ (e : ServerInfo Address) (quiet : ℚ), g { e with lastHeartbeat := quiet } = g e) :
    (l.map g).Sublist (s.serverList.map g) ∨ Lists inet s a l := by
  cases h with
  | kept => exact .inl (List.Sublist.refl _)
  | refreshed p draw hsession he hip =>
      rw [map_modifyServer (hrefresh _ _)]
      exact .inl (List.Sublist.refl _)
  | listed p draw hsession hnew => exact .inr ⟨_, _, p, draw, rfl, hsession, hnew, rfl⟩
  | heard id ip observed =>
      rw [map_modifyServer fun e => htime e 0]
      exact .inl (List.Sublist.refl _)
  | pruned deltaTime => exact .inl (map_pruneServers_sublist fun e => htime e _)

/-- No two servers are listed under one address. -/
theorem ips_nodup (h : Exec.Reached (roomStep inet) {} s) :
    (s.serverList.map (·.ip)).Nodup := by
  refine h.invariant (fun s => (s.serverList.map (·.ip)).Nodup) List.nodup_nil
    fun s a t hs hstep => ?_
  rcases (roomStep_list hstep).column (g := (·.ip)) (fun _ _ _ => rfl) (fun _ _ => rfl) with
    hsub | ⟨id, session, p, draw, -, -, hnew, hlist⟩
  · exact hs.sublist hsub
  · rw [hlist]
    exact nodup_map_concat.mpr ⟨hs, hnew⟩

/-! ## The code of a new server -/

/-- **The code of a new server is free** exactly if one of the 33 draws is. -/
theorem generateUniqueRoomCode_free_iff (draw : Nat → RoomCode)
    (serverList : List (ServerInfo Address)) :
    (∀ e ∈ serverList, e.roomCode ≠ generateUniqueRoomCode draw serverList) ↔
      ∃ attempt < 33, ∀ e ∈ serverList, e.roomCode ≠ (draw attempt).val := by
  constructor
  · intro hfree
    obtain ⟨attempt, hlt, hcode⟩ := generateUniqueRoomCode_mem draw serverList
    exact ⟨attempt, hlt, hcode ▸ hfree⟩
  · rintro ⟨attempt, hlt, hfree⟩
    unfold generateUniqueRoomCode
    cases hfound : (List.range 32).find? fun attempt =>
        serverList.all fun s => s.roomCode ≠ (draw attempt).val with
    | some first => simpa using List.find?_some hfound
    | none =>
        -- The first 32 draws are taken, so the free one is the one that is not checked.
        have hlast : attempt = 32 := by
          by_contra hne
          refine List.find?_eq_none.mp hfound attempt (List.mem_range.mpr (by omega)) ?_
          simpa using hfree
        exact hlast ▸ hfree

/-- A register that lists a new server draws, among its 33 codes, one that no
server has. -/
def DrawsFree (inet : Inet Address) (s : Rooms Address) : RoomAction Address → Prop
  | .register id p draw => ∀ session ∈ s.session? id,
      (∀ e ∈ s.serverList, e.ip ≠ observedAddress inet session.remote p.ip) →
        ∃ attempt < 33, ∀ e ∈ s.serverList, e.roomCode ≠ (draw attempt).val
  | _ => True

instance (inet : Inet Address) (s : Rooms Address) :
    (a : RoomAction Address) → Decidable (DrawsFree inet s a)
  | .register id p draw =>
      inferInstanceAs (Decidable (∀ session ∈ s.session? id,
        (∀ e ∈ s.serverList, e.ip ≠ observedAddress inet session.remote p.ip) →
          ∃ attempt < 33, ∀ e ∈ s.serverList, e.roomCode ≠ (draw attempt).val))
  | .connect _ _ | .disconnect _ | .heartbeat _ _ | .punchRequest _ _ | .update _ =>
      .isTrue trivial

/-- The room codes in the server list are pairwise distinct. -/
def DistinctCodes (s : Rooms Address) : Prop := (s.serverList.map (·.roomCode)).Nodup

instance (s : Rooms Address) : Decidable (DistinctCodes s) :=
  inferInstanceAs (Decidable (List.Nodup _))

/-- One step keeps room codes distinct exactly if it draws a free one. -/
theorem distinctCodes_step_iff (hs : DistinctCodes s) :
    (∀ t, roomStep inet s a = some t → DistinctCodes t) ↔ DrawsFree inet s a := by
  constructor
  · intro hkeeps
    cases a with
    | register id p draw =>
        intro session hsession hnew
        have hstep := hkeeps _ (Option.map_eq_some_iff.mpr ⟨session, hsession, rfl⟩)
        have hfind : s.serverList.find? (·.ip = observedAddress inet session.remote p.ip) = none :=
          List.find?_eq_none.mpr (by simpa using hnew)
        simp only [registerServer, hfind] at hstep
        exact (generateUniqueRoomCode_free_iff draw s.serverList).mp (nodup_map_concat.mp hstep).2
    | _ => trivial
  · intro hdraws t hstep
    rcases (roomStep_list hstep).column (g := (·.roomCode)) (fun _ _ _ => rfl) (fun _ _ => rfl)
      with hsub | ⟨id, session, p, draw, rfl, hsession, hnew, hlist⟩
    · exact hs.sublist hsub
    · have hfree := (generateUniqueRoomCode_free_iff draw s.serverList).mpr
        (hdraws session hsession hnew)
      rw [DistinctCodes, hlist]
      exact nodup_map_concat.mpr ⟨hs, hfree⟩

/-- **Room codes are unique.**  The room codes in the server list are pairwise
distinct after every action of a run exactly if every register that lists a new
server draws, among its 33 codes, one that no server has; and in every run, a
register under a listed address returns the code of that server, and every
address keeps its code and no other is added. -/
theorem room_codes_unique (inet : Inet Address) :
    (∀ actions,
      Exec.Along (roomStep inet) (fun s a => ∀ t, roomStep inet s a = some t → DistinctCodes t)
          {} actions ↔
        Exec.Along (roomStep inet) (DrawsFree inet) {} actions) ∧
      ∀ s, Exec.Reached (roomStep inet) {} s → ∀ id p draw, ∀ session ∈ s.session? id,
        ∀ e ∈ s.serverList, e.ip = observedAddress inet session.remote p.ip →
          ∃ t, roomStep inet s (.register id p draw) = some t ∧
            (t.serverList.map fun e => (e.ip, e.roomCode)) =
              (s.serverList.map fun e => (e.ip, e.roomCode)) ∧
            t.responses.getLast? = some { code := e.roomCode, host := id, ip := e.ip } := by
  constructor
  · intro actions
    refine Exec.along_congr (fun _ => True) DistinctCodes ?_ ?_ List.nodup_nil fun _ _ => trivial
    · exact fun s a t _ _ hkeeps hstep => hkeeps t hstep
    · exact fun s a hs _ => distinctCodes_step_iff hs
  · intro s hs id p draw session hsession e he hip
    obtain ⟨e', hfound⟩ : ∃ e',
        s.serverList.find? (·.ip = observedAddress inet session.remote p.ip) = some e' :=
      Option.isSome_iff_exists.mp (List.find?_isSome.mpr ⟨e, he, by simpa using hip⟩)
    have hip' : e'.ip = observedAddress inet session.remote p.ip := by
      simpa using List.find?_some hfound
    obtain rfl : e' = e := List.inj_on_of_nodup_map (ips_nodup hs)
      (List.mem_of_find?_eq_some hfound) he (hip'.trans hip.symm)
    refine ⟨_, Option.map_eq_some_iff.mpr ⟨session, hsession, rfl⟩, ?_, ?_⟩
    · simp only [registerServer, hfound]
      exact map_modifyServer (f := ServerInfo.refresh inet p id) (fun _ => rfl) s.serverList
    · simp only [registerServer, hfound, List.getLast?_concat, hip']

end

/-- Host 1 registers under the code `taken`, host 2 registers from an address of
its own, drawing `codes` and then the code `taken` again and again. -/
def sampleHosts (taken : RoomCode) (codes : List RoomCode) :
    List (RoomAction (Bytes × UInt16)) :=
  [ .connect 1 ([49], 5001), .connect 2 ([50], 5002),
    .register 1 sampleRegister fun _ => taken,
    .register 2 sampleRegister fun attempt => codes.getD attempt taken,
    .update 10 ]

/-- The second host draws the code of the first and then a free one, and the
first registers again. -/
theorem room_codes_unique_retried :
    let taken := sampleCode 65 (by decide)
    let codes := [taken, sampleCode 66 (by decide)]
    Exec.Along (roomStep sampleInet)
        (fun s a => ∀ t, roomStep sampleInet s a = some t → DistinctCodes t) {}
        (sampleHosts taken codes) ∧
      ∃ s t, Exec.exec (roomStep sampleInet) {} (sampleHosts taken codes) = some s ∧
        s.serverList.length = 2 ∧
        roomStep sampleInet s (.register 1 sampleRegister fun _ => sampleCode 67 (by decide)) =
          some t ∧
        (t.serverList.map fun e => (e.ip, e.roomCode)) =
          s.serverList.map fun e => (e.ip, e.roomCode) := by
  intro taken codes
  have hdraws : Exec.Along (roomStep sampleInet) (DrawsFree sampleInet) {}
      (sampleHosts taken codes) := by
    decide +kernel
  obtain ⟨s, hs, htest⟩ : ∃ s,
      Exec.exec (roomStep sampleInet) {} (sampleHosts taken codes) = some s ∧
      decide (s.serverList.length = 2 ∧ ∃ session ∈ s.session? 1, ∃ e ∈ s.serverList,
        e.ip = observedAddress sampleInet session.remote sampleRegister.ip) = true :=
    Exec.exec_any (by decide +kernel)
  obtain ⟨htwo, session, hsession, e, he, hip⟩ := of_decide_eq_true htest
  obtain ⟨t, hstep, hkept, -⟩ := (room_codes_unique sampleInet).2 s ⟨_, hs⟩ 1 sampleRegister
    (fun _ => sampleCode 67 (by decide)) session hsession e he hip
  exact ⟨((room_codes_unique sampleInet).1 _).mpr hdraws, s, t, hs, htwo, hstep, hkept⟩

/-- **The last draw is not looked at.**  All 33 draws of the second host are the
code of the first, and the two share it. -/
theorem room_codes_shared :
    ¬ ∀ s, Exec.Reached (roomStep sampleInet) {} s → DistinctCodes s := by
  let taken := sampleCode 65 (by decide)
  obtain ⟨s, hs, hshared⟩ : ∃ s,
      Exec.exec (roomStep sampleInet) {} (sampleHosts taken []) = some s ∧
      decide (¬ DistinctCodes s) = true :=
    Exec.exec_any (by decide +kernel)
  intro hlaw
  exact of_decide_eq_true hshared (hlaw s ⟨_, hs⟩)

end Master
