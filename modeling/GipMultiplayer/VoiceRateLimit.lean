import GipMultiplayer.TokenBucket
import GipMultiplayer.VoiceRouting
import Mathlib.Algebra.BigOperators.Ring.Finset

/-!
# The rate limit of the voice router

Every peer of the router has two token buckets, one for packets and one for
bytes, refilled by the time since its last packet and spent together.  The
router runs on a clock that does not run backwards, and beside it stands, for
each connection, what `consumeRate` has admitted since its membership last
changed.

* `meteredStep` — one action of the router, with the clock and the admissions;
* `lookup_apply` — what an action does to the buckets of one peer;
* `Inv.step` — the buckets stay within their bounds;
* `rate_bound` — the law of the limiter in every run.
-/

namespace Voice

/-! ## The metered router -/

/-- The clock reading that an action takes. -/
def RouterStep.now? : RouterStep → Option TimePoint
  | .addPeer now _ _ | .beginControl now _ _ | .handleVoicePacket now _ _ _ => some now
  | .removePeer _ | .confirmControl _ | .countSendFailure | .reportMalformedPacket
  | .setHearEnemiesVoice _ | .reset => none

/-- The connection that an action is about. -/
def RouterStep.subject? : RouterStep → Option ConnectionId
  | .addPeer _ c _ | .removePeer c | .beginControl _ c _ | .handleVoicePacket _ c _ _ => some c
  | .confirmControl call => some call.connectionid
  | .countSendFailure | .reportMalformedPacket | .setHearEnemiesVoice _ | .reset => none

/-- A packet that `consumeRate` has admitted. -/
structure Admitted where
  time : TimePoint
  bytes : Nat
  deriving DecidableEq, Repr

/-- The admission of a connection by an action. -/
def RouterStep.admission (router : Router) (d : ConnectionId) : RouterStep → Option Admitted
  | .handleVoicePacket now c packet _ =>
      if c = d ∧ verdict router now c packet = .routed then some ⟨now, packet.payload.length⟩
      else none
  | _ => none

/-- The membership of a connection: its registration and the state granted to
it, if any. -/
def Router.granted (router : Router) (c : ConnectionId) : Option (Nat × Option PeerState) :=
  (router.membership c).map fun m => (m.handle, m.stored)

/-- The router, its clock, and what each connection was admitted since its
membership last changed. -/
structure Metered where
  router : Router
  clock : TimePoint
  admitted : ConnectionId → List Admitted := fun _ => []

/-- One action, at a time that is not before the last one. -/
def meteredStep (m : Metered) (action : RouterStep) : Option Metered :=
  if action.now?.getD m.clock < m.clock then none
  else
    let router := action.apply m.router
    some
      { router := router
        clock := action.now?.getD m.clock
        admitted := fun d =>
          if router.granted d = m.router.granted d then
            m.admitted d ++ (action.admission m.router d).toList
          else [] }

/-- The empty router at some time. -/
def Metered.start (config : Config) (clock : TimePoint) : Metered :=
  { router := { config := config }, clock := clock }

/-- Seconds of a number of nanoseconds. -/
def seconds (nanoseconds : Int) : ℚ := nanoseconds / 1000000000

/-! ## The law -/

/-- The admissions of a closed window. -/
def within (admitted : List Admitted) (t₀ t₁ : TimePoint) : List Admitted :=
  admitted.filter fun a => t₀ ≤ a.time ∧ a.time ≤ t₁

/-- **The law of one peer**: its token counts are within their bursts, and no
window of time holds more packets or bytes than burst and rate allow. -/
structure RateLaw (config : Config) (peer : Peer) (admitted : List Admitted) : Prop where
  packettokens : 0 ≤ peer.packettokens ∧ peer.packettokens ≤ config.packetburst
  bytetokens : 0 ≤ peer.bytetokens ∧ peer.bytetokens ≤ config.byteburst
  packets : ∀ t₀ t₁, t₀ ≤ t₁ → ((within admitted t₀ t₁).length : ℚ) ≤
    config.packetburst + config.packetspersecond * seconds (t₁ - t₀)
  bytes : ∀ t₀ t₁, t₀ ≤ t₁ → (((within admitted t₀ t₁).map Admitted.bytes).sum : ℚ) ≤
    config.byteburst + config.bytespersecond * seconds (t₁ - t₀)

/-- Rates and bursts are not negative. -/
structure Config.Nonnegative (config : Config) : Prop where
  packetspersecond : 0 ≤ config.packetspersecond
  packetburst : 0 ≤ config.packetburst
  bytespersecond : 0 ≤ config.bytespersecond
  byteburst : 0 ≤ config.byteburst

/-! ## What an action does to the buckets of one peer -/

/-- The buckets of a peer. -/
def Peer.buckets (peer : Peer) : ℚ × ℚ × TimePoint :=
  (peer.packettokens, peer.bytetokens, peer.ratetime)

/-- **What an action leaves of the buckets of one peer**: full buckets with a
new membership, the buckets as they were, or those of `consumeRate`. -/
inductive BucketEffect (router : Router) (action : RouterStep) (d : ConnectionId)
    (peer' : Peer) : Prop
  | filled (now : action.now? = some peer'.ratetime)
      (packettokens : peer'.packettokens = router.config.packetburst)
      (bytetokens : peer'.bytetokens = router.config.byteburst)
      (changed : (action.apply router).granted d ≠ router.granted d)
  | kept (peer : Peer) (before : router.peers.lookup d = some peer)
      (same : peer'.buckets = peer.buckets) (none : action.admission router d = none)
  | consumed (peer : Peer) (now : TimePoint) (bytes : Nat)
      (before : router.peers.lookup d = some peer) (now? : action.now? = some now)
      (after : peer' = (consumeRate router.config now peer bytes).1)
      (admission : action.admission router d =
        if coversRate router.config now peer bytes then some ⟨now, bytes⟩ else none)

variable {router : Router} {d : ConnectionId} {peer' : Peer}

/-- A packet that comes to the limiter charges its sender, and any other leaves
the table as it was. -/
theorem handleVoicePacket_peers (router : Router) (now : TimePoint) (c : ConnectionId)
    (packet : UplinkPacket) (sendOk : ConnectionId → Bool) :
    ((verdict router now c packet = .malformed ∨ verdict router now c packet = .rejected) ∧
        (handleVoicePacket router now c packet sendOk).1.peers = router.peers) ∨
      ∃ sender, router.peers.lookup c = some sender ∧
        (handleVoicePacket router now c packet sendOk).1.peers =
          router.peers.insert c
            (consumeRate router.config now sender packet.payload.length).1 ∧
        verdict router now c packet =
          if coversRate router.config now sender packet.payload.length then .routed
          else .rateLimited := by
  unfold handleVoicePacket verdict
  by_cases hvalid : validateTeamVoiceUplinkPacket packet = .none
  · rw [if_neg (not_not.mpr hvalid), if_neg (not_not.mpr hvalid)]
    unfold routeVoicePacket
    have hpeers : (countReceived router packet).peers = router.peers := rfl
    have hconfig : (countReceived router packet).config = router.config := rfl
    dsimp only
    rw [hpeers, hconfig]
    cases hlookup : router.peers.lookup c with
    | none => exact .inl ⟨.inr rfl, rfl⟩
    | some sender =>
        dsimp only
        cases hsend : sender.maySend packet with
        | false => exact .inl ⟨.inr rfl, rfl⟩
        | true =>
            refine .inr ⟨sender, rfl, ?_, ?_⟩
            · rw [if_pos rfl, consumeRate_snd]
              cases hcovers : coversRate router.config now sender packet.payload.length <;> rfl
            · cases hcovers : coversRate router.config now sender packet.payload.length <;> rfl
  · rw [if_pos hvalid, if_pos hvalid]
    exact .inl ⟨.inl rfl, rfl⟩

/-- **Frame.**  An action leaves the records of the others alone. -/
theorem lookup_apply_other {action : RouterStep} (hsubject : action.subject? ≠ some d)
    (hreset : action ≠ .reset) :
    (action.apply router).peers.lookup d = router.peers.lookup d := by
  have hne : ∀ {c}, action.subject? = some c → d ≠ c := fun hc hd => hsubject (hd ▸ hc)
  cases action with
  | addPeer now c callback =>
      show (addPeer router now c callback).1.peers.lookup d = _
      unfold addPeer
      split_ifs
      · rfl
      · rfl
      · rfl
      · exact AList.lookup_insert_ne (hne rfl)
  | removePeer c => exact AList.lookup_erase_ne (hne rfl)
  | beginControl now c requested =>
      have hset : ∀ newstate,
          (beginSetPeerState router now c newstate).1.peers.lookup d = router.peers.lookup d := by
        intro newstate
        unfold beginSetPeerState
        dsimp only
        split
        · rfl
        · split_ifs
          · rfl
          · exact AList.lookup_insert_ne (hne rfl)
      have hclear : (beginClearPeerState router c).1.peers.lookup d = router.peers.lookup d := by
        unfold beginClearPeerState
        dsimp only
        split
        · rfl
        · split_ifs
          · rfl
          · exact AList.lookup_insert_ne (hne rfl)
      show (beginControl router now c requested).1.peers.lookup d = _
      unfold beginControl
      split
      · split_ifs
        · exact hset _
        · exact hclear
      · exact hclear
  | confirmControl call =>
      show (confirmControl router call).1.peers.lookup d = _
      unfold confirmControl
      split
      · rfl
      · split_ifs
        · exact AList.lookup_insert_ne (hne rfl)
        · rfl
  | handleVoicePacket now c packet sendOk =>
      show (handleVoicePacket router now c packet sendOk).1.peers.lookup d = _
      rcases handleVoicePacket_peers router now c packet sendOk with
        ⟨-, hpeers⟩ | ⟨sender, -, hpeers, -⟩
      · rw [hpeers]
      · rw [hpeers, AList.lookup_insert_ne (hne rfl)]
  | countSendFailure => rfl
  | reportMalformedPacket => rfl
  | setHearEnemiesVoice enable => rfl
  | reset => exact absurd rfl hreset

/-- The records of a connection grant what its record says. -/
theorem granted_of_lookup {peer : Peer} (h : router.peers.lookup d = some peer) :
    router.granted d = some (peer.handle, peer.membership.stored) := by
  rw [Router.granted, Router.membership_of_lookup h]
  rfl

theorem granted_of_lookup_none (h : router.peers.lookup d = none) : router.granted d = none := by
  rw [Router.granted, Router.membership_of_lookup_none h]
  rfl

/-- Granting another state fills the buckets. -/
theorem Peer.grant_buckets (config : Config) (now : TimePoint) (peer : Peer)
    (newstate : PeerState) :
    peer.grant config now newstate = peer ∨
      (peer.grant config now newstate).buckets = (config.packetburst, config.byteburst, now) ∧
        (peer.grant config now newstate).membership.stored ≠ peer.membership.stored := by
  unfold Peer.grant
  split_ifs with hsame
  · exact .inl rfl
  · refine .inr ⟨rfl, fun hstored => hsame ?_⟩
    have hgranted : peer.membership.stored = some newstate := hstored.symm
    obtain ⟨hstate, heq⟩ := Membership.stored_eq_some.mp hgranted
    exact ⟨hstate, peerStatesEqual_iff.mpr heq⟩

theorem Peer.revoke_buckets (peer : Peer) : peer.revoke.buckets = peer.buckets := by
  unfold Peer.revoke
  split_ifs <;> rfl

/-- **What an action does** to the buckets of the peer it is about, and of
every other. -/
theorem lookup_apply {action : RouterStep}
    (h : (action.apply router).peers.lookup d = some peer') :
    BucketEffect router action d peer' := by
  by_cases hsubject : action.subject? = some d
  swap
  · have hreset : action ≠ .reset := by
      rintro rfl
      cases h
    rw [lookup_apply_other hsubject hreset] at h
    refine .kept peer' h rfl ?_
    cases action with
    | handleVoicePacket now c packet sendOk =>
        exact if_neg fun hrouted => hsubject (congrArg some hrouted.1)
    | _ => rfl
  cases action with
  | addPeer now c callback =>
      obtain rfl := Option.some.inj hsubject
      have hgranted := @granted_of_lookup (RouterStep.apply router (.addPeer now c callback)) c _ h
      have hafter : (addPeer router now c callback).1.peers.lookup c = some peer' := h
      unfold addPeer at hafter
      split_ifs at hafter with hcallback hmem hfull
      · exact .kept peer' hafter rfl rfl
      · exact .kept peer' hafter rfl rfl
      · exact .kept peer' hafter rfl rfl
      · rw [AList.lookup_insert] at hafter
        obtain rfl := Option.some.inj hafter
        refine .filled rfl rfl rfl ?_
        rw [hgranted, granted_of_lookup_none (AList.lookup_eq_none.mpr hmem)]
        exact Option.some_ne_none _
  | removePeer c =>
      obtain rfl := Option.some.inj hsubject
      have hafter : (router.peers.erase c).lookup c = some peer' := h
      rw [AList.lookup_erase] at hafter
      cases hafter
  | beginControl now c requested =>
      obtain rfl := Option.some.inj hsubject
      have hafter : (beginControl router now c requested).1.peers.lookup c = some peer' := h
      have hclear : (beginClearPeerState router c).1.peers.lookup c = some peer' →
          BucketEffect router (.beginControl now c requested) c peer' := by
        intro hafter
        unfold beginClearPeerState at hafter
        dsimp only at hafter
        split at hafter
        · exact .kept peer' hafter rfl rfl
        · rename_i peer hpeer
          split_ifs at hafter
          · exact .kept peer' hafter rfl rfl
          · rw [AList.lookup_insert] at hafter
            obtain rfl := Option.some.inj hafter
            exact .kept peer hpeer peer.revoke_buckets rfl
      have hset : ∀ newstate, (beginSetPeerState router now c newstate).1.peers.lookup c =
          some peer' → BucketEffect router (.beginControl now c requested) c peer' := by
        intro newstate hafter'
        unfold beginSetPeerState at hafter'
        dsimp only at hafter'
        split at hafter'
        · exact .kept peer' hafter' rfl rfl
        · rename_i peer hpeer
          split_ifs at hafter'
          · exact .kept peer' hafter' rfl rfl
          · rw [AList.lookup_insert] at hafter'
            obtain rfl := Option.some.inj hafter'
            rcases Peer.grant_buckets router.config now peer newstate with
              hsame | ⟨hbuckets, hchanged⟩
            · rw [hsame]
              exact .kept peer hpeer rfl rfl
            · simp only [Peer.buckets, Prod.mk.injEq] at hbuckets
              obtain ⟨hpackets, hbytes, hnow⟩ := hbuckets
              refine .filled (congrArg some hnow.symm) hpackets hbytes ?_
              rw [granted_of_lookup h, granted_of_lookup hpeer]
              exact fun heq => hchanged (congrArg Prod.snd (Option.some.inj heq))
      unfold beginControl at hafter
      split at hafter
      · split_ifs at hafter
        · exact hset _ hafter
        · exact hclear hafter
      · exact hclear hafter
  | confirmControl call =>
      obtain rfl := Option.some.inj hsubject
      have hafter : (confirmControl router call).1.peers.lookup call.connectionid = some peer' := h
      unfold confirmControl at hafter
      split at hafter
      · exact .kept peer' hafter rfl rfl
      · rename_i peer hpeer
        split_ifs at hafter
        · rw [AList.lookup_insert] at hafter
          obtain rfl := Option.some.inj hafter
          exact .kept peer hpeer rfl rfl
        · exact .kept peer' hafter rfl rfl
  | handleVoicePacket now c packet sendOk =>
      obtain rfl := Option.some.inj hsubject
      have hafter : (handleVoicePacket router now c packet sendOk).1.peers.lookup c =
          some peer' := h
      rcases handleVoicePacket_peers router now c packet sendOk with
        ⟨hverdict, hpeers⟩ | ⟨sender, hsender, hpeers, hverdict⟩
      · rw [hpeers] at hafter
        refine .kept peer' hafter rfl (if_neg fun hrouted => ?_)
        rcases hverdict with hmalformed | hrejected
        · exact absurd (hmalformed.symm.trans hrouted.2) (by decide)
        · exact absurd (hrejected.symm.trans hrouted.2) (by decide)
      · rw [hpeers, AList.lookup_insert] at hafter
        obtain rfl := Option.some.inj hafter
        refine .consumed sender now packet.payload.length hsender rfl rfl ?_
        show (if c = c ∧ verdict router now c packet = .routed then _ else none) = _
        rw [hverdict]
        cases coversRate router.config now sender packet.payload.length with
        | true => exact if_pos ⟨rfl, rfl⟩
        | false => exact if_neg fun hrouted => absurd hrouted.2 (by decide)
  | countSendFailure => cases hsubject
  | reportMalformedPacket => cases hsubject
  | setHearEnemiesVoice enable => cases hsubject
  | reset => cases hsubject

/-! ## The invariant -/

theorem seconds_le {a b : Int} : seconds a ≤ seconds b ↔ a ≤ b := by
  unfold seconds
  rw [div_le_div_iff_of_pos_right (by norm_num), Int.cast_le]

theorem seconds_sub (a b : Int) : seconds (a - b) = seconds a - seconds b := by
  unfold seconds
  rw [Int.cast_sub, sub_div]

/-- The admissions as takings, each of the given amount. -/
def takings (amount : Admitted → ℚ) (admitted : List Admitted) : List (ℚ × ℚ) :=
  admitted.map fun a => (seconds a.time, amount a)

theorem takings_append (amount : Admitted → ℚ) (admitted more : List Admitted) :
    takings amount (admitted ++ more) = takings amount admitted ++ takings amount more :=
  List.map_append

/-- What was taken in a window is what the admissions of the window took. -/
theorem taken_takings (amount : Admitted → ℚ) (admitted : List Admitted) (t₀ t₁ : TimePoint) :
    TokenBucket.taken (takings amount admitted) (seconds t₀) (seconds t₁) =
      ((within admitted t₀ t₁).map amount).sum := by
  unfold TokenBucket.taken takings within
  rw [List.filter_map, List.map_map]
  congr 2
  refine List.filter_congr fun a _ => ?_
  simp only [Function.comp, seconds_le]

/-- The two buckets of a peer are within their bounds. -/
structure Buckets (config : Config) (peer : Peer) (clock : TimePoint)
    (admitted : List Admitted) : Prop where
  past : peer.ratetime ≤ clock
  packets : TokenBucket.Bounded config.packetburst config.packetspersecond
    (seconds peer.ratetime) peer.packettokens (takings (fun _ => 1) admitted)
  bytes : TokenBucket.Bounded config.byteburst config.bytespersecond
    (seconds peer.ratetime) peer.bytetokens (takings (fun a => a.bytes) admitted)

/-- The configuration is that of the start, and all buckets are within their
bounds. -/
structure Metered.Inv (config : Config) (m : Metered) : Prop where
  configured : m.router.config = config
  buckets : ∀ d peer, m.router.peers.lookup d = some peer →
    Buckets config peer m.clock (m.admitted d)

namespace Buckets

variable {config : Config} {peer : Peer} {clock : TimePoint} {admitted : List Admitted}

/-- Full buckets. -/
theorem filled (hconfig : config.Nonnegative) (hpast : peer.ratetime ≤ clock)
    (hpackets : peer.packettokens = config.packetburst)
    (hbytes : peer.bytetokens = config.byteburst) : Buckets config peer clock [] where
  past := hpast
  packets := .empty hconfig.packetspersecond (hpackets ▸ hconfig.packetburst) hpackets.le _
  bytes := .empty hconfig.bytespersecond (hbytes ▸ hconfig.byteburst) hbytes.le _

/-- Counting starts anew. -/
theorem forget (hconfig : config.Nonnegative) (h : Buckets config peer clock admitted) :
    Buckets config peer clock [] where
  past := h.past
  packets := .empty hconfig.packetspersecond h.packets.nonneg h.packets.full _
  bytes := .empty hconfig.bytespersecond h.bytes.nonneg h.bytes.full _

/-- The bounds are those of the buckets alone. -/
theorem congr {peer' : Peer} (hsame : peer'.buckets = peer.buckets) {later : TimePoint}
    (hlater : clock ≤ later) (h : Buckets config peer clock admitted) :
    Buckets config peer' later admitted := by
  simp only [Peer.buckets, Prod.mk.injEq] at hsame
  obtain ⟨hpackets, hbytes, htime⟩ := hsame
  exact
    { past := htime ▸ h.past.trans hlater
      packets := by rw [hpackets, htime]; exact h.packets
      bytes := by rw [hbytes, htime]; exact h.bytes }

/-- **A refill** for the time since the last packet. -/
theorem refill (hconfig : config.Nonnegative) (h : Buckets config peer clock admitted)
    {now : TimePoint} (hnow : clock ≤ now) :
    Buckets config (Voice.refill config now peer) now admitted := by
  have htime : seconds peer.ratetime ≤ seconds now := seconds_le.mpr (h.past.trans hnow)
  have helapsed : (((now - peer.ratetime : Int) : ℚ) / 1000000000) =
      seconds now - seconds peer.ratetime := seconds_sub now peer.ratetime
  refine ⟨le_rfl, ?_, ?_⟩
  · have hrefill := h.packets.refill hconfig.packetspersecond htime
    rw [← helapsed] at hrefill
    exact hrefill
  · have hrefill := h.bytes.refill hconfig.bytespersecond htime
    rw [← helapsed] at hrefill
    exact hrefill

/-- **One call of `consumeRate`**, with what it admits. -/
theorem consume (hconfig : config.Nonnegative) (h : Buckets config peer clock admitted)
    {now : TimePoint} (hnow : clock ≤ now) (bytes : Nat) :
    Buckets config (consumeRate config now peer bytes).1 now
      (admitted ++ (if coversRate config now peer bytes then some ⟨now, bytes⟩
        else none : Option Admitted).toList) := by
  have hrefill := h.refill hconfig hnow
  unfold consumeRate
  cases hcovers : coversRate config now peer bytes with
  | false => simpa using hrefill
  | true =>
      obtain ⟨hpacket, hbyte⟩ := coversRate_iff.mp hcovers
      simp only [if_true, Option.toList_some]
      refine ⟨le_rfl, ?_, ?_⟩
      · rw [takings_append]
        exact hrefill.packets.take hconfig.packetspersecond zero_le_one hpacket
      · rw [takings_append]
        exact hrefill.bytes.take hconfig.bytespersecond (Nat.cast_nonneg bytes) hbyte

/-- The bounds are the law. -/
theorem rateLaw (h : Buckets config peer clock admitted) : RateLaw config peer admitted where
  packettokens := ⟨h.packets.nonneg, h.packets.full⟩
  bytetokens := ⟨h.bytes.nonneg, h.bytes.full⟩
  packets t₀ t₁ ht := by
    have hwindow := h.packets.window (seconds t₀) (seconds t₁) (seconds_le.mpr ht)
    rw [taken_takings, List.map_const', List.sum_replicate, nsmul_one] at hwindow
    rwa [seconds_sub]
  bytes t₀ t₁ ht := by
    have hwindow := h.bytes.window (seconds t₀) (seconds t₁) (seconds_le.mpr ht)
    rw [taken_takings] at hwindow
    have hcast : (((within admitted t₀ t₁).map Admitted.bytes).sum : ℚ) =
        ((within admitted t₀ t₁).map fun a => (a.bytes : ℚ)).sum := by
      rw [Nat.cast_list_sum, List.map_map]
      rfl
    rwa [seconds_sub, hcast]

end Buckets

/-- What an action leaves of the buckets is within bounds when what it found
was. -/
theorem BucketEffect.buckets {action : RouterStep} {clock : TimePoint}
    {admitted : List Admitted} (hconfig : router.config.Nonnegative)
    (h : BucketEffect router action d peer') (hclock : clock ≤ action.now?.getD clock)
    (hbefore : ∀ peer, router.peers.lookup d = some peer →
      Buckets router.config peer clock admitted) :
    Buckets router.config peer' (action.now?.getD clock)
      (if (action.apply router).granted d = router.granted d then
        admitted ++ (action.admission router d).toList else []) := by
  cases h with
  | filled now packettokens bytetokens changed =>
      rw [if_neg changed, now]
      exact .filled hconfig le_rfl packettokens bytetokens
  | kept peer before same none =>
      have hkept := (hbefore peer before).congr same hclock
      rw [none, Option.toList_none, List.append_nil]
      split_ifs
      · exact hkept
      · exact hkept.forget hconfig
  | consumed peer now bytes before now? after admission =>
      rw [now?] at hclock ⊢
      have hconsume := (hbefore peer before).consume hconfig hclock bytes
      rw [admission, after]
      by_cases hgranted : (action.apply router).granted d = router.granted d
      · rw [if_pos hgranted]
        exact hconsume
      · rw [if_neg hgranted]
        exact hconsume.forget hconfig

theorem routeVoicePacket_config (router : Router) (now : TimePoint) (c : ConnectionId)
    (packet : UplinkPacket) :
    (routeVoicePacket router now c packet).1.config = router.config := by
  unfold routeVoicePacket
  split
  · rfl
  · dsimp only
    split_ifs <;> rfl

/-- No action changes the configuration. -/
theorem apply_config (action : RouterStep) (router : Router) :
    (action.apply router).config = router.config := by
  have hset : ∀ now c newstate,
      (beginSetPeerState router now c newstate).1.config = router.config := by
    intro now c newstate
    unfold beginSetPeerState
    dsimp only
    split
    · rfl
    · split_ifs <;> rfl
  have hclear : ∀ c, (beginClearPeerState router c).1.config = router.config := by
    intro c
    unfold beginClearPeerState
    dsimp only
    split
    · rfl
    · split_ifs <;> rfl
  cases action with
  | addPeer now c callback =>
      show (addPeer router now c callback).1.config = _
      unfold addPeer
      split_ifs <;> rfl
  | beginControl now c requested =>
      show (beginControl router now c requested).1.config = _
      unfold beginControl
      split
      · split_ifs
        · exact hset ..
        · exact hclear c
      · exact hclear c
  | confirmControl call =>
      show (confirmControl router call).1.config = _
      unfold confirmControl
      split
      · rfl
      · split_ifs <;> rfl
  | handleVoicePacket now c packet sendOk =>
      show (handleVoicePacket router now c packet sendOk).1.config = _
      unfold handleVoicePacket
      split_ifs
      · rfl
      · have hroute := routeVoicePacket_config (countReceived router packet) now c packet
        split <;> rename_i heq
        · rw [heq] at hroute
          exact hroute
        · rw [heq] at hroute
          exact hroute
  | removePeer c => rfl
  | countSendFailure => rfl
  | reportMalformedPacket => rfl
  | setHearEnemiesVoice enable => rfl
  | reset => rfl

/-! ## Runs -/

/-- The time of an action is not before the last one. -/
theorem meteredStep_eq_some {m m' : Metered} {action : RouterStep}
    (h : meteredStep m action = some m') :
    m.clock ≤ action.now?.getD m.clock ∧ m'.clock = action.now?.getD m.clock ∧
      m'.router = action.apply m.router ∧
      ∀ c, m'.admitted c =
        if (action.apply m.router).granted c = m.router.granted c then
          m.admitted c ++ (action.admission m.router c).toList else [] := by
  unfold meteredStep at h
  split_ifs at h with hclock
  obtain rfl := Option.some.inj h
  exact ⟨not_lt.mp hclock, rfl, rfl, fun _ => rfl⟩

/-- **Every action keeps the buckets within their bounds.** -/
theorem Metered.Inv.step {config : Config} (hconfig : config.Nonnegative) {m m' : Metered}
    {action : RouterStep} (h : m.Inv config) (hstep : meteredStep m action = some m') :
    m'.Inv config := by
  obtain ⟨hclock, hclock', hrouter, hadmitted⟩ := meteredStep_eq_some hstep
  obtain ⟨rfl, hbuckets⟩ := h
  constructor
  · rw [hrouter]
    exact apply_config action m.router
  · intro d peer' hpeer'
    rw [hclock', hadmitted]
    rw [hrouter] at hpeer'
    exact (lookup_apply hpeer').buckets hconfig hclock (hbuckets d)

/-- The invariant of every run. -/
theorem Metered.Inv.reached {config : Config} (hconfig : config.Nonnegative) {clock : TimePoint}
    {m : Metered} (h : Exec.Reached meteredStep (Metered.start config clock) m) :
    m.Inv config := by
  refine h.invariant (Metered.Inv config) ⟨rfl, ?_⟩ fun s action t hs ht => hs.step hconfig ht
  intro d peer hpeer
  cases hpeer

/-- **A refused packet**: the limiter leaves its sender refilled, and what is
refused before it leaves the sender alone. -/
theorem lookup_refused {now : TimePoint} {c : ConnectionId} {packet : UplinkPacket}
    {sendOk : ConnectionId → Bool} (hrefused : verdict router now c packet ≠ .routed)
    {peer : Peer} (hpeer : router.peers.lookup c = some peer) :
    (handleVoicePacket router now c packet sendOk).1.peers.lookup c =
      some (if verdict router now c packet = .rateLimited then refill router.config now peer
        else peer) := by
  rcases handleVoicePacket_peers router now c packet sendOk with
    ⟨hverdict, hpeers⟩ | ⟨sender, hsender, hpeers, hverdict⟩
  · have hnot : verdict router now c packet ≠ .rateLimited := by
      rcases hverdict with h | h
      · rw [h]
        decide
      · rw [h]
        decide
    rw [hpeers, if_neg hnot, hpeer]
  · obtain rfl := Option.some.inj (hpeer.symm.trans hsender)
    cases hcovers : coversRate router.config now peer packet.payload.length with
    | true =>
        rw [hcovers, if_pos rfl] at hverdict
        exact absurd hverdict hrefused
    | false =>
        have hlimited : verdict router now c packet = .rateLimited := by
          rw [hverdict, hcovers, if_neg Bool.false_ne_true]
        rw [hpeers, AList.lookup_insert, if_pos hlimited]
        unfold consumeRate
        rw [hcovers, if_neg Bool.false_ne_true]

/-- A refill adds to both buckets. -/
theorem Buckets.le_refill {config : Config} (hconfig : config.Nonnegative) {peer : Peer}
    {clock now : TimePoint} {admitted : List Admitted} (h : Buckets config peer clock admitted)
    (hnow : clock ≤ now) :
    peer.packettokens ≤ (Voice.refill config now peer).packettokens ∧
      peer.bytetokens ≤ (Voice.refill config now peer).bytetokens := by
  have htime := h.past.trans hnow
  have helapsed : (0 : ℚ) ≤ ((now - peer.ratetime : Int) : ℚ) / 1000000000 :=
    div_nonneg (Int.cast_nonneg (sub_nonneg.mpr htime)) (by norm_num)
  constructor
  · refine le_min h.packets.full (le_add_of_nonneg_right ?_)
    exact mul_nonneg helapsed hconfig.packetspersecond
  · refine le_min h.bytes.full (le_add_of_nonneg_right ?_)
    exact mul_nonneg helapsed hconfig.bytespersecond

/-- **The rate limiter.**  In every run of the router every peer obeys the law
of its buckets; a packet that is refused takes no token of either kind, and no
action changes the record of a connection that it is not about. -/
theorem rate_bound {config : Config} (hconfig : config.Nonnegative) {clock : TimePoint}
    {m : Metered} (h : Exec.Reached meteredStep (Metered.start config clock) m) :
    (∀ c peer, m.router.peers.lookup c = some peer → RateLaw config peer (m.admitted c)) ∧
      (∀ now c packet sendOk m',
        meteredStep m (.handleVoicePacket now c packet sendOk) = some m' →
        verdict m.router now c packet ≠ .routed →
        ∀ peer, m.router.peers.lookup c = some peer →
          ∃ peer', m'.router.peers.lookup c = some peer' ∧
            peer.packettokens ≤ peer'.packettokens ∧ peer.bytetokens ≤ peer'.bytetokens) ∧
      ∀ action m', meteredStep m action = some m' → action ≠ .reset →
        ∀ d, action.subject? ≠ some d →
          m'.router.peers.lookup d = m.router.peers.lookup d := by
  have hinv := Metered.Inv.reached hconfig h
  refine ⟨fun c peer hpeer => (hinv.buckets c peer hpeer).rateLaw, ?_, ?_⟩
  · intro now c packet sendOk m' hstep hrefused peer hpeer
    obtain ⟨hclock, -, hrouter, -⟩ := meteredStep_eq_some hstep
    have hafter : m'.router.peers.lookup c =
        some (if verdict m.router now c packet = .rateLimited then
          refill m.router.config now peer else peer) := by
      rw [hrouter]
      exact lookup_refused hrefused hpeer
    refine ⟨_, hafter, ?_⟩
    have hrefill := (hinv.buckets c peer hpeer).le_refill hconfig hclock
    rw [hinv.configured]
    split_ifs
    · exact hrefill
    · exact ⟨le_rfl, le_rfl⟩
  · intro action m' hstep hreset d hsubject
    obtain ⟨-, -, hrouter, -⟩ := meteredStep_eq_some hstep
    rw [hrouter]
    exact lookup_apply_other hsubject hreset

/-- A burst of one packet: the second packet of an instant is refused. -/
theorem rate_bound_burst :
    let config : Config := { packetburst := 1 }
    let hello : UplinkPacket :=
      { sessionid := 9, membershipgeneration := 1, streamgeneration := 1, payload := [0xf8] }
    ∃ m, Exec.Reached meteredStep (Metered.start config 0) m ∧ m.admitted 1 = [⟨5, 1⟩] ∧
      verdict m.router 5 1 hello = .rateLimited ∧
      ∀ c peer, m.router.peers.lookup c = some peer → RateLaw config peer (m.admitted c) := by
  intro config hello
  let granted : PeerState := ⟨7, 1, 9, true, true⟩
  let actions : List RouterStep :=
    [.addPeer 0 1 true, .beginControl 0 1 (some granted), .confirmControl ⟨1, some granted, 0, 1⟩,
      .handleVoicePacket 5 1 hello fun _ => true, .handleVoicePacket 5 1 hello fun _ => true]
  obtain ⟨m, hm, htest⟩ := @Exec.exec_any _ _ meteredStep (Metered.start config 0) actions
    (fun m => m.admitted 1 = [⟨5, 1⟩] ∧ verdict m.router 5 1 hello = .rateLimited)
    (by decide +kernel)
  have htest := of_decide_eq_true htest
  have hconfig : config.Nonnegative := by constructor <;> norm_num [config]
  exact ⟨m, ⟨actions, hm⟩, htest.1, htest.2, (rate_bound hconfig ⟨actions, hm⟩).1⟩

end Voice
