import GipMultiplayer.VoiceRouting

/-!
# Publication of control packets

The protocol by which the host publishes a membership: the state is written
first, the control is sent unlocked, and the send's success is what publishes
it.  Calls are atomic here, each with an arbitrary outcome of its send, and a
log keeps the sends made for each registration.

* `controlCall_spec` — everything one control call does;
* `Publication.Inv`, `Publication.step_inv` — a published peer was last
  successfully sent exactly its own control;
* `muted_run` — after a failed send a peer neither speaks nor hears until a
  later call on it succeeds;
* `control_publication` — the protocol as a whole.
-/

namespace Voice

/-- A control call with its send: `setPeerState` for a state, `clearPeerState`
for none. -/
def controlCall (router : Router) (now : TimePoint) (c : ConnectionId)
    (requested : Option PeerState) (sendOk : Bool) : Router × Bool × Option SessionPacket :=
  match requested with
  | some newstate => setPeerState router now c newstate sendOk
  | none => clearPeerState router c sendOk

/-- A control call is its first locked section, the send and the rest. -/
theorem controlCall_eq (router : Router) (now : TimePoint) (c : ConnectionId)
    (requested : Option PeerState) (sendOk : Bool) :
    controlCall router now c requested sendOk =
      finishControl (beginControl router now c requested).1
        (beginControl router now c requested).2 sendOk := by
  cases requested with
  | none => rfl
  | some newstate =>
      cases hvalid : isValidPeerState newstate <;>
        simp [controlCall, setPeerState, clearPeerState, beginControl, hvalid]

/-- **Spec of a control call.**  An absent peer refuses it, an up-to-date peer
accepts it without a send, and any other peer is sent the control of its
requested membership, which the send's success publishes. -/
theorem controlCall_spec (router : Router) (now : TimePoint) (c : ConnectionId)
    (requested : Option PeerState) (sendOk : Bool) :
    let e := effectiveRequest requested
    let called := controlCall router now c requested sendOk
    (router.membership c = none ∧ called.2 = (false, none) ∧
      ∀ d, called.1.membership d = router.membership d) ∨
    (∃ m, router.membership c = some m ∧ m.upToDate e ∧ called.2 = (true, none) ∧
      ∀ d, called.1.membership d = router.membership d) ∨
    (∃ m, router.membership c = some m ∧ ¬ m.upToDate e ∧
      called.2 = (sendOk, some (m.call c e).control) ∧
      ∀ d, called.1.membership d =
        if d = c then some (if sendOk then (m.request e).publish else m.request e)
        else router.membership d) := by
  intro e called
  have hcall := controlCall_eq router now c requested sendOk
  have hstart := beginControl_start router now c requested
  have hbegin := beginControl_membership router now c requested
  cases hm : router.membership c with
  | none =>
      simp only [hm] at hstart hbegin
      rw [hstart] at hcall
      refine .inl ⟨rfl, by simp [called, hcall, finishControl], fun d => ?_⟩
      simp only [called, hcall, finishControl, hbegin, Option.map_none]
      split_ifs with hd
      · rw [hd, hm]
      · rfl
  | some m =>
      simp only [hm, Option.map_some] at hstart hbegin
      by_cases hdone : m.upToDate e
      · rw [hstart, if_pos hdone] at hcall
        refine .inr (.inl ⟨m, rfl, hdone, by simp [called, hcall, finishControl], fun d => ?_⟩)
        simp only [called, hcall, finishControl, hbegin]
        split_ifs with hd
        · rw [hd, hm, Membership.request_upToDate hdone]
        · rfl
      · rw [hstart, if_neg hdone] at hcall
        refine .inr (.inr ⟨m, rfl, hdone, ?_⟩)
        have hstill := Membership.request_stillRequested c hdone
        cases sendOk with
        | false =>
            refine ⟨by simp [called, hcall, finishControl, e], fun d => ?_⟩
            simp only [called, hcall, finishControl]
            exact hbegin d
        | true =>
            have hresult := (confirmControl_result (beginControl router now c requested).1
              (m.call c e)).mpr ⟨m.request e, by rw [hbegin]; exact if_pos rfl, hstill⟩
            refine ⟨?_, fun d => ?_⟩
            · simp only [called, hcall, finishControl, if_true, e]
              rw [hresult]
            · simp only [called, hcall, finishControl, if_true]
              rw [confirmControl_membership, hbegin]
              by_cases hd : d = c
              · rw [if_pos (show d = (m.call c e).connectionid from hd), if_pos hd, if_pos hd,
                  Option.map_some, if_pos hstill]
              · rw [if_neg (show ¬ d = (m.call c e).connectionid from hd), if_neg hd, if_neg hd]

/-! ## The protocol with its log of sends -/

/-- The router together with the control sends of each current registration,
newest first, with their outcomes. -/
structure Publication where
  router : Router := {}
  sends : ConnectionId → List (SessionPacket × Bool) := fun _ => []

/-- The calls of the protocol. -/
inductive ControlStep
  | addPeer (now : TimePoint) (c : ConnectionId) (callback : Bool)
  | removePeer (c : ConnectionId)
  | setPeerState (now : TimePoint) (c : ConnectionId) (newstate : PeerState) (sendOk : Bool)
  | clearPeerState (c : ConnectionId) (sendOk : Bool)
  | handleVoicePacket (now : TimePoint) (c : ConnectionId) (packet : UplinkPacket)
      (sendOk : ConnectionId → Bool)
  | setHearEnemiesVoice (enable : Bool)
  | reset

namespace Publication

/-- A control call, with its send noted in the log. -/
def control (s : Publication) (now : TimePoint) (c : ConnectionId)
    (requested : Option PeerState) (sendOk : Bool) : Publication :=
  match controlCall s.router now c requested sendOk with
  | (router, _, none) => { s with router := router }
  | (router, _, some sent) =>
      { router := router
        sends := Function.update s.sends c ((sent, sendOk) :: s.sends c) }

/-- One call; a registration that is accepted starts an empty log. -/
def step (s : Publication) : ControlStep → Option Publication
  | .addPeer now c callback =>
      let added := Voice.addPeer s.router now c callback
      some { router := added.1
             sends := if added.2 then Function.update s.sends c [] else s.sends }
  | .removePeer c => some { s with router := Voice.removePeer s.router c }
  | .setPeerState now c newstate sendOk => some (s.control now c (some newstate) sendOk)
  | .clearPeerState c sendOk => some (s.control 0 c none sendOk)
  | .handleVoicePacket now c packet sendOk =>
      some { s with router := (Voice.handleVoicePacket s.router now c packet sendOk).1 }
  | .setHearEnemiesVoice enable =>
      some { s with router := Voice.setHearEnemiesVoice s.router enable }
  | .reset => some { s with router := Voice.reset s.router }

/-- The control last sent successfully in a log. -/
def lastSent (sends : List (SessionPacket × Bool)) : Option SessionPacket :=
  (sends.find? Prod.snd).map Prod.fst

/-- The control that announces a membership. -/
def announcement (m : Membership) : SessionPacket :=
  match m.stored with
  | some state =>
      { enabled := true
        sessionid := state.sessionid
        membershipgeneration := m.generation
        playerid := state.playerid }
  | none => { enabled := false }

/-- A published peer was last successfully sent its own announcement; only one
that never had a state may never have been sent anything. -/
def Announced (m : Membership) (sends : List (SessionPacket × Bool)) : Prop :=
  lastSent sends = some (announcement m) ∨ m.stored = none ∧ sends = []

/-- The invariant of the protocol. -/
def Inv (s : Publication) : Prop :=
  ∀ c m, s.router.membership c = some m →
    m.WellFormed ∧ (m.controlpublished = true → Announced m (s.sends c))

theorem announcement_call (m : Membership) (c : ConnectionId) (requested : Option PeerState)
    (h : (m.request requested).stored = requested) :
    (m.call c requested).control = announcement (m.request requested) := by
  unfold announcement ControlCall.control
  rw [h]
  cases requested <;> rfl

/-- **What a control call does to the protocol.**  Either nothing, or it sends
one peer the announcement of what it requested of it. -/
theorem control_cases (s : Publication) (now : TimePoint) (c : ConnectionId)
    (requested : Option PeerState) (sendOk : Bool) :
    let e := effectiveRequest requested
    let t := s.control now c requested sendOk
    ((∀ d, t.router.membership d = s.router.membership d) ∧ t.sends = s.sends) ∨
    (∃ m, s.router.membership c = some m ∧ ¬ m.upToDate e ∧
      (controlCall s.router now c requested sendOk).2.1 = sendOk ∧
      (∀ d, t.router.membership d =
        if d = c then some (if sendOk then (m.request e).publish else m.request e)
        else s.router.membership d) ∧
      t.sends = Function.update s.sends c
        ((announcement (m.request e), sendOk) :: s.sends c)) := by
  intro e t
  have hspec := controlCall_spec s.router now c requested sendOk
  obtain ⟨⟨router, result, sent⟩, hcall⟩ : ∃ called,
    controlCall s.router now c requested sendOk = called := ⟨_, rfl⟩
  simp only [hcall, Prod.mk.injEq] at hspec
  rcases hspec with ⟨-, ⟨-, rfl⟩, hsame⟩ | ⟨m, -, -, ⟨-, rfl⟩, hsame⟩ |
    ⟨m, hm, hdone, ⟨rfl, rfl⟩, hafter⟩
  · left
    simpa [t, control, hcall] using hsame
  · left
    simpa [t, control, hcall] using hsame
  · right
    have hstored := (Membership.request_stillRequested c hdone).2.2
    refine ⟨m, hm, hdone, by rw [hcall], ?_, ?_⟩
    · simpa [t, control, hcall] using hafter
    · simp only [t, control, hcall, e, announcement_call m c _ hstored]

end Publication

namespace ControlStep

/-- The step is a control call on `c` that returns true. -/
def Succeeds (s : Publication) (c : ConnectionId) : ControlStep → Prop
  | .setPeerState now d newstate sendOk =>
      d = c ∧ (Voice.setPeerState s.router now c newstate sendOk).2.1 = true
  | .clearPeerState d sendOk =>
      d = c ∧ (Voice.clearPeerState s.router c sendOk).2.1 = true
  | _ => False

/-- The step is a control call on `c` or ends its registration. -/
def Touches (c : ConnectionId) : ControlStep → Prop
  | .setPeerState _ d _ _ => d = c
  | .clearPeerState d _ => d = c
  | .removePeer d => d = c
  | .reset => True
  | _ => False

end ControlStep

namespace Publication

/-- A step keeps or ends registrations and leaves the log alone. -/
def Quiet (s t : Publication) (a : ControlStep) : Prop :=
  t.sends = s.sends ∧ ∀ d, t.router.membership d = s.router.membership d ∨
    a.Touches d ∧ t.router.membership d = none

/-- A step registers `c`, with an empty log. -/
def Registers (s t : Publication) (c : ConnectionId) : Prop :=
  s.router.membership c = none ∧ t.sends = Function.update s.sends c [] ∧
    ∃ handle, ∀ d, t.router.membership d =
      if d = c then some (Membership.fresh handle) else s.router.membership d

/-- A step sends `c`, whose membership was `m`, the announcement of `e`. -/
def Sends (s t : Publication) (a : ControlStep) (c : ConnectionId) (m : Membership)
    (e : Option PeerState) (sendOk : Bool) : Prop :=
  s.router.membership c = some m ∧ ¬ m.upToDate (effectiveRequest e) ∧ a.Touches c ∧
    (sendOk = true → a.Succeeds s c) ∧
    (∀ d, t.router.membership d =
      if d = c then some (if sendOk then (m.request (effectiveRequest e)).publish
        else m.request (effectiveRequest e))
      else s.router.membership d) ∧
    t.sends = Function.update s.sends c
      ((announcement (m.request (effectiveRequest e)), sendOk) :: s.sends c)

/-- **Inversion.**  Everything one step can do. -/
theorem step_cases {s t : Publication} {a : ControlStep} (h : step s a = some t) :
    Quiet s t a ∨ (∃ c, Registers s t c) ∨ ∃ c m e sendOk, Sends s t a c m e sendOk := by
  cases a with
  | addPeer now c callback =>
      simp only [step, Option.some.injEq] at h
      subst h
      rcases addPeer_membership s.router now c callback with
        ⟨hresult, hsame⟩ | ⟨hresult, hnone, hadded⟩
      · exact .inl ⟨by simp [hresult], fun d => .inl (hsame d)⟩
      · exact .inr (.inl ⟨c, hnone, by simp [hresult], _, hadded⟩)
  | removePeer c =>
      obtain rfl := Option.some.inj h
      refine .inl ⟨rfl, fun d => ?_⟩
      have hd := removePeer_membership s.router c d
      split_ifs at hd with heq
      · exact .inr ⟨heq.symm, hd⟩
      · exact .inl hd
  | setPeerState now c newstate sendOk =>
      obtain rfl := Option.some.inj h
      rcases control_cases s now c (some newstate) sendOk with
        ⟨hsame, hsends⟩ | ⟨m, hm, hdone, hresult, hafter, hsends⟩
      · exact .inl ⟨hsends, fun d => .inl (hsame d)⟩
      · exact .inr (.inr ⟨c, m, some newstate, sendOk, hm, hdone, rfl,
          fun hok => ⟨rfl, hresult.trans hok⟩, hafter, hsends⟩)
  | clearPeerState c sendOk =>
      obtain rfl := Option.some.inj h
      rcases control_cases s 0 c none sendOk with
        ⟨hsame, hsends⟩ | ⟨m, hm, hdone, hresult, hafter, hsends⟩
      · exact .inl ⟨hsends, fun d => .inl (hsame d)⟩
      · exact .inr (.inr ⟨c, m, none, sendOk, hm, hdone, rfl,
          fun hok => ⟨rfl, hresult.trans hok⟩, hafter, hsends⟩)
  | handleVoicePacket now c packet sendOk =>
      obtain rfl := Option.some.inj h
      exact .inl ⟨rfl, fun d => .inl (handleVoicePacket_membership s.router now c packet sendOk d)⟩
  | setHearEnemiesVoice enable =>
      obtain rfl := Option.some.inj h
      exact .inl ⟨rfl, fun d => .inl rfl⟩
  | reset =>
      obtain rfl := Option.some.inj h
      exact .inl ⟨rfl, fun d => .inr ⟨trivial, reset_membership s.router d⟩⟩

/-- A publication is reachable when a run leads to it from an empty router. -/
def Reachable (config : Config) (s : Publication) : Prop :=
  Exec.Reached step { router := { config := config } } s

/-- What a successful send leaves is announced. -/
theorem announced_publish (m : Membership) (sends : List (SessionPacket × Bool)) :
    Announced m.publish ((announcement m, true) :: sends) := by
  refine .inl ?_
  simp only [lastSent, List.find?_cons, Option.map_some]
  rfl

/-- **Step lemma.** -/
theorem step_inv {s t : Publication} {a : ControlStep} (hs : Inv s)
    (h : step s a = some t) : Inv t := by
  intro d m hm
  rcases step_cases h with ⟨hsends, hquiet⟩ | ⟨c, -, hsends, handle, hadded⟩ |
    ⟨c, m₀, e, sendOk, hm₀, hdone, -, -, hafter, hsends⟩
  · rcases hquiet d with hsame | ⟨-, hnone⟩
    · rw [hsends]
      exact hs d m (hsame ▸ hm)
    · simp [hnone] at hm
  · by_cases hd : d = c
    · rw [hadded, if_pos hd] at hm
      cases hm
      refine ⟨Membership.fresh_wellFormed handle, fun _ => .inr ⟨rfl, ?_⟩⟩
      simp [hsends, hd]
    · rw [hadded, if_neg hd] at hm
      simpa [hsends, hd] using hs d m hm
  · by_cases hd : d = c
    · rw [hafter, if_pos hd] at hm
      have hwf := (hs c m₀ hm₀).1.request e
      cases sendOk with
      | true =>
          obtain rfl := Option.some.inj hm
          refine ⟨hwf.publish, fun _ => ?_⟩
          simpa [hsends, hd] using announced_publish _ (s.sends c)
      | false =>
          obtain rfl := Option.some.inj hm
          refine ⟨hwf, fun hpublished => ?_⟩
          simp [Membership.request_unpublished hdone] at hpublished
    · rw [hafter, if_neg hd] at hm
      simpa [hsends, hd] using hs d m hm

/-- **Run lemma.** -/
theorem Reachable.inv {config : Config} {s : Publication} (h : Reachable config s) : Inv s :=
  Exec.Reached.invariant h Inv (fun c m hm => by simp [Router.membership] at hm)
    fun _ _ _ hs ht => step_inv hs ht

/-- A step changes the generation of a registered peer exactly when it changes
its stored state. -/
theorem step_generation {s t : Publication} {a : ControlStep} (h : step s a = some t)
    {c : ConnectionId} {m m' : Membership} (hm : s.router.membership c = some m)
    (hm' : t.router.membership c = some m') :
    m'.generation ≠ m.generation ↔ m'.stored ≠ m.stored := by
  rcases step_cases h with ⟨-, hquiet⟩ | ⟨d, hnone, -, handle, hadded⟩ |
    ⟨d, m₀, e, sendOk, hm₀, -, -, -, hafter, -⟩
  · rcases hquiet c with hsame | ⟨-, hnone⟩
    · obtain rfl : m' = m := Option.some.inj (hm'.symm.trans (hsame.trans hm))
      simp
    · simp [hnone] at hm'
  · have hne : c ≠ d := by
      rintro rfl
      simp [hnone] at hm
    rw [hadded, if_neg hne] at hm'
    obtain rfl : m' = m := Option.some.inj (hm'.symm.trans hm)
    simp
  · by_cases hd : c = d
    · subst hd
      obtain rfl : m₀ = m := Option.some.inj (hm₀.symm.trans hm)
      rw [hafter, if_pos rfl] at hm'
      obtain rfl := Option.some.inj hm'
      cases sendOk <;> exact m₀.request_generation (effectiveRequest e)
    · rw [hafter, if_neg hd] at hm'
      obtain rfl : m' = m := Option.some.inj (hm'.symm.trans hm)
      simp

/-! ## After a failed send -/

/-- The peer is absent, without a state, or with an unpublished one. -/
def Muted (s : Publication) (c : ConnectionId) : Prop :=
  ∀ m, s.router.membership c = some m →
    ¬ (m.hasstate = true ∧ m.controlpublished = true)

theorem muted_step {s t : Publication} {a : ControlStep} {c : ConnectionId}
    (hs : Muted s c) (hfails : ¬ a.Succeeds s c) (h : step s a = some t) : Muted t c := by
  intro m hm
  rcases step_cases h with ⟨-, hquiet⟩ | ⟨d, -, -, handle, hadded⟩ |
    ⟨d, m₀, e, sendOk, -, hdone, -, hsucceeds, hafter, -⟩
  · rcases hquiet c with hsame | ⟨-, hnone⟩
    · exact hs m (hsame ▸ hm)
    · simp [hnone] at hm
  · by_cases hd : c = d
    · rw [hadded, if_pos hd] at hm
      cases hm
      simp [Membership.fresh]
    · rw [hadded, if_neg hd] at hm
      exact hs m hm
  · by_cases hd : c = d
    · subst hd
      rw [hafter, if_pos rfl] at hm
      cases sendOk with
      | true => exact absurd (hsucceeds rfl) hfails
      | false =>
          obtain rfl := Option.some.inj hm
          simp [Membership.request_unpublished hdone]
    · rw [hafter, if_neg hd] at hm
      exact hs m hm

/-- Muting lasts as long as no control call on the peer succeeds. -/
theorem muted_run {s t : Publication} {c : ConnectionId} (hs : Muted s c)
    (h : Exec.ReachedAlong step (fun s a => ¬ a.Succeeds s c) s t) : Muted t c :=
  h.invariant (Muted · c) hs fun _ _ _ hm hfails ht => muted_step hm hfails ht

/-- A muted peer neither speaks nor hears. -/
theorem Muted.silent {s : Publication} {c : ConnectionId} (hs : Muted s c)
    (hrouter : s.router.WellFormed) (now : TimePoint) (packet : UplinkPacket)
    (sendOk : ConnectionId → Bool) :
    (Voice.handleVoicePacket s.router now c packet sendOk).2 = [] ∧
      ∀ d, c ∉ (Voice.handleVoicePacket s.router now d packet sendOk).2.map Prod.fst := by
  constructor
  · refine List.eq_nil_iff_forall_not_mem.mpr fun ⟨r, downlink⟩ hmem => ?_
    obtain ⟨sender, listener, hroutes, -⟩ :=
      (mem_handleVoicePacket hrouter now c packet sendOk r downlink).mp hmem
    exact hs _ (Router.membership_of_lookup hroutes.registered) hroutes.published
  · intro d hmem
    obtain ⟨⟨r, downlink⟩, hdownlink, rfl⟩ := List.mem_map.mp hmem
    obtain ⟨sender, listener, hroutes, -⟩ :=
      (mem_handleVoicePacket hrouter now d packet sendOk r downlink).mp hdownlink
    exact hs _ (Router.membership_of_lookup hroutes.listening) hroutes.listenerPublished

/-- A registration outlives steps that do not touch it, unchanged. -/
theorem untouched_run {s t : Publication} {c : ConnectionId} {m : Membership}
    (hs : s.router.membership c = some m)
    (h : Exec.ReachedAlong step (fun _ a => ¬ a.Touches c) s t) :
    t.router.membership c = some m := by
  refine h.invariant (fun s => s.router.membership c = some m) hs
    fun s a t hm htouch ht => ?_
  rcases step_cases ht with ⟨-, hquiet⟩ | ⟨d, hnone, -, handle, hadded⟩ |
    ⟨d, m₀, e, sendOk, -, -, htouches, -, hafter, -⟩
  · rcases hquiet c with hsame | ⟨htouches, -⟩
    · rw [hsame, hm]
    · exact absurd htouches htouch
  · have hne : c ≠ d := by
      rintro rfl
      simp [hnone] at hm
    rw [hadded, if_neg hne, hm]
  · have hne : c ≠ d := by
      rintro rfl
      exact htouch htouches
    rw [hafter, if_neg hne, hm]

/-- What a control call with a failed send leaves: the peer holds the request,
unpublished, and the control it was sent announces it. -/
theorem control_failed {s : Publication} {now : TimePoint} {c : ConnectionId}
    {requested : Option PeerState} {sent : SessionPacket}
    (hfail : (controlCall s.router now c requested false).2 = (false, some sent)) :
    ∃ m : Membership, ¬ m.upToDate (effectiveRequest requested) ∧
      sent = (m.call c (effectiveRequest requested)).control ∧
      (s.control now c requested false).router.membership c =
        some (m.request (effectiveRequest requested)) := by
  rcases controlCall_spec s.router now c requested false with
    ⟨-, hresult, -⟩ | ⟨m, -, -, hresult, -⟩ | ⟨m, -, hdone, hresult, hafter⟩
  · simp [hresult] at hfail
  · simp [hresult] at hfail
  · rw [hresult] at hfail
    simp only [Prod.mk.injEq, Option.some.injEq, true_and] at hfail
    refine ⟨m, hdone, hfail.symm, ?_⟩
    have hrouter : (s.control now c requested false).router =
        (controlCall s.router now c requested false).1 := by
      unfold control
      split <;> simp_all
    rw [hrouter, hafter, if_pos rfl]
    rfl

theorem control_failed_muted {s : Publication} {now : TimePoint} {c : ConnectionId}
    {requested : Option PeerState} {sent : SessionPacket}
    (hfail : (controlCall s.router now c requested false).2 = (false, some sent)) :
    Muted (s.control now c requested false) c := by
  obtain ⟨m, hdone, -, hm⟩ := control_failed hfail
  intro m' hm'
  obtain rfl : m' = m.request (effectiveRequest requested) :=
    Option.some.inj (hm'.symm.trans hm)
  simp [Membership.request_unpublished hdone]

/-- **Retry.**  However long after a failed send, as long as nothing else
touched the peer, the same call sends the same control and keeps the
generation. -/
theorem control_retry {s t : Publication} {now now' : TimePoint} {c : ConnectionId}
    {requested : Option PeerState} {sent : SessionPacket}
    (hfail : (controlCall s.router now c requested false).2 = (false, some sent))
    (h : Exec.ReachedAlong step (fun _ a => ¬ a.Touches c) (s.control now c requested false) t)
    (sendOk : Bool) :
    (controlCall t.router now' c requested sendOk).2.2 = some sent ∧
      ((controlCall t.router now' c requested sendOk).1.membership c).map
          Membership.generation =
        ((s.control now c requested false).router.membership c).map
          Membership.generation := by
  obtain ⟨m, hdone, rfl, hm⟩ := control_failed hfail
  have ht := untouched_run hm h
  have hagain := Membership.request_request hdone
  have hpending : ¬ (m.request (effectiveRequest requested)).upToDate
      (effectiveRequest requested) := fun hup => by
    simp [Membership.request_unpublished hdone, Membership.upToDate] at hup
  rcases controlCall_spec t.router now' c requested sendOk with
    ⟨hnone, -, -⟩ | ⟨m', hm', hup, -, -⟩ | ⟨m', hm', -, hresult, hafter⟩
  · simp [ht] at hnone
  · obtain rfl := Option.some.inj (hm'.symm.trans ht)
    exact absurd hup hpending
  · obtain rfl := Option.some.inj (hm'.symm.trans ht)
    rw [hresult, hafter, hm, if_pos rfl]
    refine ⟨by simp only [Membership.call, hagain], ?_⟩
    cases sendOk <;> simp [hagain, Membership.publish]

/-! ## The law -/

/-- A control call that succeeds leaves the peer published in its effective
request. -/
theorem controlCall_success {router : Router} (now : TimePoint) {c : ConnectionId}
    (requested : Option PeerState) {sendOk : Bool}
    (h : (controlCall router now c requested sendOk).2.1 = true) :
    ∃ m, (controlCall router now c requested sendOk).1.membership c = some m ∧
      m.upToDate (effectiveRequest requested) := by
  rcases controlCall_spec router now c requested sendOk with
    ⟨-, hresult, -⟩ | ⟨m, hm, hup, -, hsame⟩ | ⟨m, -, hdone, hresult, hafter⟩
  · simp [hresult] at h
  · exact ⟨m, by rw [hsame, hm], hup⟩
  · obtain rfl : sendOk = true := by simpa [hresult] using h
    refine ⟨_, by rw [hafter, if_pos rfl, if_pos rfl], ?_⟩
    exact ⟨(Membership.request_stillRequested c hdone).2.2, rfl⟩

/-- What holds between any two calls of the protocol. -/
structure ControlLaw (s : Publication) : Prop where
  /-- A published peer with a state was last successfully sent an enabling
  control of exactly its session, generation and player. -/
  published : ∀ c m, s.router.membership c = some m → m.hasstate = true →
    m.controlpublished = true →
    lastSent (s.sends c) = some
      { enabled := true
        sessionid := m.state.sessionid
        membershipgeneration := m.generation
        playerid := m.state.playerid }
  /-- A published peer without a state was last successfully sent a disabling
  control, or never sent anything. -/
  cleared : ∀ c m, s.router.membership c = some m → m.hasstate = false →
    m.controlpublished = true →
    lastSent (s.sends c) = some { enabled := false } ∨ s.sends c = []
  /-- A successful `setPeerState` of a valid state publishes exactly it. -/
  success : ∀ now c newstate sendOk, isValidPeerState newstate = true →
    (setPeerState s.router now c newstate sendOk).2.1 = true →
    ∃ m, (setPeerState s.router now c newstate sendOk).1.membership c = some m ∧
      m.hasstate = true ∧ m.state = newstate ∧ m.controlpublished = true
  /-- For an invalid state it is `clearPeerState`, whose success publishes the
  peer without a state. -/
  invalid : ∀ now c newstate sendOk, isValidPeerState newstate = false →
    setPeerState s.router now c newstate sendOk = clearPeerState s.router c sendOk
  clear : ∀ c sendOk, (clearPeerState s.router c sendOk).2.1 = true →
    ∃ m, (clearPeerState s.router c sendOk).1.membership c = some m ∧
      m.hasstate = false ∧ m.controlpublished = true
  /-- After a failed send the peer neither speaks nor hears until a later call
  on it succeeds. -/
  silenced : ∀ now c requested sent,
    (controlCall s.router now c requested false).2 = (false, some sent) →
    ∀ t, Exec.ReachedAlong step (fun s a => ¬ a.Succeeds s c)
        (s.control now c requested false) t →
      ∀ now packet sendOk,
        (Voice.handleVoicePacket t.router now c packet sendOk).2 = [] ∧
        ∀ d, c ∉ (Voice.handleVoicePacket t.router now d packet sendOk).2.map Prod.fst
  /-- Retrying it sends the same control and keeps the generation. -/
  retry : ∀ now c requested sent,
    (controlCall s.router now c requested false).2 = (false, some sent) →
    ∀ t, Exec.ReachedAlong step (fun _ a => ¬ a.Touches c)
        (s.control now c requested false) t →
      ∀ now' sendOk,
        (controlCall t.router now' c requested sendOk).2.2 = some sent ∧
        ((controlCall t.router now' c requested sendOk).1.membership c).map
            Membership.generation =
          ((s.control now c requested false).router.membership c).map Membership.generation
  /-- A step changes the generation of a registered peer exactly when it
  changes its stored state. -/
  generation : ∀ a t, step s a = some t → ∀ c m m', s.router.membership c = some m →
    t.router.membership c = some m' →
    (m'.generation ≠ m.generation ↔ m'.stored ≠ m.stored)
  /-- The generation is not zero while the peer has a state. -/
  nonzero : ∀ c m, s.router.membership c = some m → m.hasstate = true → m.generation ≠ 0

/-- A failed call is a step, so it keeps the invariant. -/
theorem control_inv {s : Publication} (hs : Inv s) (now : TimePoint) (c : ConnectionId)
    (requested : Option PeerState) (sendOk : Bool) :
    Inv (s.control now c requested sendOk) := by
  cases requested with
  | some newstate => exact step_inv (a := .setPeerState now c newstate sendOk) hs rfl
  | none => exact step_inv (a := .clearPeerState c sendOk) hs rfl

/-- **Control publication.**  The law holds between any two calls of any run,
whatever the outcomes of the sends. -/
theorem control_publication {config : Config} {s : Publication} (h : Reachable config s) :
    ControlLaw s where
  published c m hm hstate hpublished := by
    rcases (h.inv c m hm).2 hpublished with hsent | ⟨hnone, -⟩
    · rw [hsent, announcement, Membership.stored, if_pos hstate]
    · simp [hstate] at hnone
  cleared c m hm hstate hpublished := by
    rcases (h.inv c m hm).2 hpublished with hsent | ⟨-, hnever⟩
    · left
      rw [hsent, announcement, Membership.stored, if_neg (by simp [hstate])]
    · exact .inr hnever
  success now c newstate sendOk hvalid htrue := by
    obtain ⟨m, hm, hstored, hpublished⟩ :=
      controlCall_success now (some newstate) htrue
    rw [effectiveRequest_valid hvalid, Membership.stored_eq_some] at hstored
    exact ⟨m, hm, hstored.1, hstored.2, hpublished⟩
  invalid now c newstate sendOk hinvalid := by simp [Voice.setPeerState, hinvalid]
  clear c sendOk htrue := by
    obtain ⟨m, hm, hstored, hpublished⟩ :=
      controlCall_success 0 none htrue
    exact ⟨m, hm, by simpa using hstored, hpublished⟩
  silenced now c requested sent hfail t ht now' packet sendOk := by
    have hinv : Inv t := ht.invariant Inv (control_inv h.inv now c requested false)
      fun _ _ _ hs _ ht => step_inv hs ht
    exact (muted_run (control_failed_muted hfail) ht).silent
      (fun c m hm => (hinv c m hm).1) now' packet sendOk
  retry now c requested sent hfail t ht now' sendOk := control_retry hfail ht sendOk
  generation _ _ ht _ _ _ hm hm' := step_generation ht hm hm'
  nonzero c m hm hstate := ((h.inv c m hm).1.valid hstate).2

/-- The law in a run that registers a peer, fails to publish a state and then
publishes it. -/
theorem control_publication_retried :
    let granted : PeerState := ⟨7, 1, 9, true, true⟩
    let calls : List ControlStep := [.addPeer 0 1 true, .setPeerState 0 1 granted false,
      .setPeerState 0 1 granted true]
    ∃ s, Exec.exec step {} calls = some s ∧ ControlLaw s ∧
      s.router.membership 1 = some ⟨0, granted, true, true, 1⟩ := by
  intro granted calls
  exact ⟨_, rfl, control_publication (show Reachable {} _ from ⟨calls, rfl⟩), by decide +kernel⟩

/-- Success does not always publish the requested state: a state without a
player is accepted by clearing the peer. -/
theorem setPeerState_true_without_state :
    ¬ ∀ s, Reachable {} s → ∀ now c newstate sendOk,
      (setPeerState s.router now c newstate sendOk).2.1 = true →
      ∃ m, (setPeerState s.router now c newstate sendOk).1.membership c = some m ∧
        m.hasstate = true ∧ m.state = newstate ∧ m.controlpublished = true := by
  intro hclaim
  obtain ⟨m, hm, hstate, -⟩ :=
    hclaim _ ⟨[.addPeer 0 1 true], rfl⟩ 0 1 ⟨0, 1, 9, true, true⟩ true (by decide +kernel)
  have hfresh : (setPeerState (Voice.addPeer {} 0 1 true).1 0 1 ⟨0, 1, 9, true, true⟩
      true).1.membership 1 = some (Membership.fresh 0) := by decide +kernel
  obtain rfl := Option.some.inj (hm.symm.trans hfresh)
  simp [Membership.fresh] at hstate

end Publication

end Voice
