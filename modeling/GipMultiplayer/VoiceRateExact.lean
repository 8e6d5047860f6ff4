import GipMultiplayer.VoiceRateLimit

/-!
# When the router refuses a packet for its rate

The buckets of a peer are full when its membership is granted, so all they lack
has been admitted since.  A packet is refused for its rate exactly when, with
it, some window up to now would hold more packets or more bytes than burst and
rate allow: a peer that keeps within both is never refused.  All of this is exact
arithmetic; where a bucket holds just one token, the doubles of the source can
fall a little short of it.

No voice packet is longer than 256 bytes.  When the byte bucket allows for so
much with every token of the packet bucket, as it does by default, it is never
the reason.

* `granted_apply` — an action that changes what a peer is granted fills its
  buckets or revokes the grant;
* `Tight` — what the buckets lack has been admitted;
* `rate_refusal_exact` — the law of refusals;
* `byte_limit_idle` — the byte bucket where it is large enough.
-/

namespace Voice

/-- The times at which something is admitted. -/
def clocks : Set ℚ := Set.range fun t : TimePoint => seconds t

/-! ## What a change of the grant does to the buckets -/

variable {router : Router} {d : ConnectionId} {peer peer' : Peer} {action : RouterStep}

/-- Granting changes nothing, or fills the buckets. -/
theorem Peer.grant_cases (config : Config) (now : TimePoint) (peer : Peer)
    (newstate : PeerState) :
    peer.grant config now newstate = peer ∨
      (peer.grant config now newstate).buckets = (config.packetburst, config.byteburst, now) :=
  (Peer.grant_buckets config now peer newstate).imp_right And.left

/-- What one control call leaves of the record it is about. -/
theorem beginControl_cases {now : TimePoint} {requested : Option PeerState}
    (h : router.peers.lookup d = some peer)
    (h' : (beginControl router now d requested).1.peers.lookup d = some peer') :
    peer' = peer ∨ peer'.hasstate = false ∨
      peer'.buckets = (router.config.packetburst, router.config.byteburst, now) := by
  have hset : ∀ newstate, (beginSetPeerState router now d newstate).1.peers.lookup d = some peer' →
      peer' = peer ∨ peer'.hasstate = false ∨
        peer'.buckets = (router.config.packetburst, router.config.byteburst, now) := by
    intro newstate hafter
    unfold beginSetPeerState at hafter
    rw [h] at hafter
    dsimp only at hafter
    split_ifs at hafter
    · exact .inl (Option.some.inj (hafter.symm.trans h))
    · rw [AList.lookup_insert] at hafter
      obtain rfl := Option.some.inj hafter
      exact (peer.grant_cases router.config now newstate).imp_right .inr
  have hclear : (beginClearPeerState router d).1.peers.lookup d = some peer' →
      peer' = peer ∨ peer'.hasstate = false ∨
        peer'.buckets = (router.config.packetburst, router.config.byteburst, now) := by
    intro hafter
    unfold beginClearPeerState at hafter
    rw [h] at hafter
    dsimp only at hafter
    split_ifs at hafter
    · exact .inl (Option.some.inj (hafter.symm.trans h))
    · rw [AList.lookup_insert] at hafter
      obtain rfl := Option.some.inj hafter
      refine .inr (.inl ?_)
      unfold Peer.revoke
      split_ifs with hstate
      · rfl
      · exact Bool.not_eq_true _ ▸ hstate
  unfold beginControl at h'
  split at h'
  · split_ifs at h'
    · exact hset _ h'
    · exact hclear h'
  · exact hclear h'

theorem granted_congr {router' : Router} (h : router'.membership d = router.membership d) :
    router'.granted d = router.granted d := by
  rw [Router.granted, Router.granted, h]

/-- **A change of the grant.**  An action after which a peer is granted something
else leaves it full buckets, or no state. -/
theorem granted_apply (h' : (action.apply router).peers.lookup d = some peer')
    (hchanged : (action.apply router).granted d ≠ router.granted d) :
    peer'.hasstate = false ∨
      action.now? = some peer'.ratetime ∧ peer'.packettokens = router.config.packetburst ∧
        peer'.bytetokens = router.config.byteburst := by
  by_cases hsubject : action.subject? = some d
  swap
  · have hreset : action ≠ .reset := by
      rintro rfl
      cases h'
    have hsame : (action.apply router).peers.lookup d = router.peers.lookup d :=
      lookup_apply_other hsubject hreset
    exact absurd (granted_congr (congrArg (Option.map Peer.membership) hsame)) hchanged
  cases action with
  | addPeer now c callback =>
      obtain rfl := Option.some.inj hsubject
      have hafter : (addPeer router now c callback).1.peers.lookup c = some peer' := h'
      have hchanged' : (addPeer router now c callback).1.granted c ≠ router.granted c := hchanged
      unfold addPeer at hafter hchanged'
      split_ifs at hafter hchanged' with hcallback hmem hfull
      · exact absurd rfl hchanged'
      · exact absurd rfl hchanged'
      · exact absurd rfl hchanged'
      · rw [AList.lookup_insert] at hafter
        obtain rfl := Option.some.inj hafter
        exact .inl rfl
  | removePeer c =>
      obtain rfl := Option.some.inj hsubject
      have hafter : (router.peers.erase c).lookup c = some peer' := h'
      rw [AList.lookup_erase] at hafter
      cases hafter
  | beginControl now c requested =>
      obtain rfl := Option.some.inj hsubject
      have hafter : (beginControl router now c requested).1.peers.lookup c = some peer' := h'
      cases hbefore : router.peers.lookup c with
      | none =>
          have hmembership := beginControl_membership router now c requested c
          rw [Router.membership_of_lookup hafter, if_pos rfl,
            Router.membership_of_lookup_none hbefore] at hmembership
          cases hmembership
      | some peer =>
          rcases beginControl_cases hbefore hafter with rfl | hstate | hfull
          · refine absurd ?_ hchanged
            rw [granted_of_lookup h', granted_of_lookup hbefore]
          · exact .inl hstate
          · simp only [Peer.buckets, Prod.mk.injEq] at hfull
            exact .inr ⟨congrArg some hfull.2.2.symm, hfull.1, hfull.2.1⟩
  | confirmControl call =>
      have hmembership := confirmControl_membership router call d
      rw [if_pos (Option.some.inj hsubject).symm] at hmembership
      refine absurd ?_ hchanged
      show ((confirmControl router call).1.membership d).map _ = (router.membership d).map _
      rw [hmembership, Option.map_map]
      congr 1
      funext m
      simp only [Function.comp]
      split_ifs <;> rfl
  | handleVoicePacket now c packet sendOk =>
      exact absurd
        (granted_congr (handleVoicePacket_membership router now c packet sendOk d)) hchanged
  | countSendFailure => cases hsubject
  | reportMalformedPacket => cases hsubject
  | setHearEnemiesVoice enable => cases hsubject
  | reset => cases hsubject

/-! ## What the buckets lack -/

/-- What the buckets of a peer lack has been admitted since one time or other. -/
structure Tight (config : Config) (peer : Peer) (admitted : List Admitted) : Prop where
  packets : TokenBucket.Exact clocks config.packetburst config.packetspersecond
    (seconds peer.ratetime) peer.packettokens (takings (fun _ => 1) admitted)
  bytes : TokenBucket.Exact clocks config.byteburst config.bytespersecond
    (seconds peer.ratetime) peer.bytetokens (takings (fun a => a.bytes) admitted)

namespace Tight

variable {config : Config} {clock : TimePoint} {admitted : List Admitted}

/-- Full buckets lack nothing. -/
theorem filled (hpackets : peer.packettokens = config.packetburst)
    (hbytes : peer.bytetokens = config.byteburst) : Tight config peer [] where
  packets := .full ⟨peer.ratetime, rfl⟩ hpackets.ge le_rfl
  bytes := .full ⟨peer.ratetime, rfl⟩ hbytes.ge le_rfl

/-- Only the buckets matter. -/
theorem congr (hsame : peer'.buckets = peer.buckets) (h : Tight config peer admitted) :
    Tight config peer' admitted := by
  simp only [Peer.buckets, Prod.mk.injEq] at hsame
  obtain ⟨hpackets, hbytes, htime⟩ := hsame
  exact
    { packets := by rw [hpackets, htime]; exact h.packets
      bytes := by rw [hbytes, htime]; exact h.bytes }

/-- **A refill** for the time since the last packet. -/
theorem refill (h : Tight config peer admitted) (hbuckets : Buckets config peer clock admitted)
    {now : TimePoint} (hnow : clock ≤ now) :
    Tight config (Voice.refill config now peer) admitted := by
  have htime : seconds peer.ratetime ≤ seconds now := seconds_le.mpr (hbuckets.past.trans hnow)
  have helapsed : (((now - peer.ratetime : Int) : ℚ) / 1000000000) =
      seconds now - seconds peer.ratetime := seconds_sub now peer.ratetime
  constructor
  · have hrefill := h.packets.refill hbuckets.packets.past hbuckets.packets.full ⟨now, rfl⟩ htime
    rw [← helapsed] at hrefill
    exact hrefill
  · have hrefill := h.bytes.refill hbuckets.bytes.past hbuckets.bytes.full ⟨now, rfl⟩ htime
    rw [← helapsed] at hrefill
    exact hrefill

/-- **One call of `consumeRate`**, with what it admits. -/
theorem consume (h : Tight config peer admitted) (hbuckets : Buckets config peer clock admitted)
    {now : TimePoint} (hnow : clock ≤ now) (bytes : Nat) :
    Tight config (consumeRate config now peer bytes).1
      (admitted ++ (if coversRate config now peer bytes then some ⟨now, bytes⟩
        else none : Option Admitted).toList) := by
  have hrefill := h.refill hbuckets hnow
  unfold consumeRate
  cases hcovers : coversRate config now peer bytes with
  | false => simpa using hrefill
  | true =>
      simp only [if_true, Option.toList_some]
      constructor
      · rw [takings_append]
        exact hrefill.packets.take 1
      · rw [takings_append]
        exact hrefill.bytes.take (bytes : ℚ)

end Tight

/-! ## Runs -/

/-- The same grant is a grant of the same state or of none. -/
theorem hasstate_of_granted {router' : Router} (h : router.peers.lookup d = some peer)
    (h' : router'.peers.lookup d = some peer') (hsame : router'.granted d = router.granted d) :
    peer'.hasstate = peer.hasstate := by
  rw [granted_of_lookup h, granted_of_lookup h', Option.some.injEq, Prod.mk.injEq] at hsame
  cases hstate : peer.hasstate with
  | false =>
      have hnone : peer.membership.stored = none := Membership.stored_eq_none.mpr hstate
      exact Membership.stored_eq_none.mp (hsame.2.trans hnone)
  | true =>
      have hsome : peer.membership.stored = some peer.state :=
        Membership.stored_eq_some.mpr ⟨hstate, rfl⟩
      exact (Membership.stored_eq_some.mp (hsame.2.trans hsome)).1

/-- The buckets of every peer are within their bounds, and what those of a peer
with a membership lack has been admitted since it was granted. -/
structure Metered.Exact (config : Config) (m : Metered) : Prop where
  inv : m.Inv config
  tight : ∀ d peer, m.router.peers.lookup d = some peer → peer.hasstate = true →
    Tight config peer (m.admitted d)

/-- **Every action keeps the account.** -/
theorem Metered.Exact.step {config : Config} (hconfig : config.Nonnegative) {m m' : Metered}
    (h : m.Exact config) (hstep : meteredStep m action = some m') : m'.Exact config := by
  refine ⟨h.inv.step hconfig hstep, fun d peer' hpeer' hstate => ?_⟩
  obtain ⟨hclock, -, hrouter, hadmitted⟩ := meteredStep_eq_some hstep
  have hconfigured := h.inv.configured
  rw [hrouter] at hpeer'
  rw [hadmitted]
  by_cases hsame : (action.apply m.router).granted d = m.router.granted d
  · rw [if_pos hsame]
    cases lookup_apply hpeer' with
    | filled now packettokens bytetokens changed => exact absurd hsame changed
    | kept peer before same none =>
        have hbefore := (hasstate_of_granted before hpeer' hsame).symm.trans hstate
        rw [none, Option.toList_none, List.append_nil]
        exact (h.tight d peer before hbefore).congr same
    | consumed peer now bytes before now? after admission =>
        have hbefore := (hasstate_of_granted before hpeer' hsame).symm.trans hstate
        rw [now?] at hclock
        rw [admission, after, hconfigured]
        exact (h.tight d peer before hbefore).consume (h.inv.buckets d peer before) hclock bytes
  · rw [if_neg hsame]
    rcases granted_apply hpeer' hsame with hnone | ⟨-, hpackets, hbytes⟩
    · rw [hstate] at hnone
      cases hnone
    · rw [hconfigured] at hpackets hbytes
      exact .filled hpackets hbytes

/-- The account of every run. -/
theorem Metered.Exact.reached {config : Config} (hconfig : config.Nonnegative)
    {clock : TimePoint} {m : Metered}
    (h : Exec.Reached meteredStep (Metered.start config clock) m) : m.Exact config := by
  refine h.invariant (Metered.Exact config) ⟨.reached hconfig ⟨[], rfl⟩, ?_⟩
    fun s action t hs ht => hs.step hconfig ht
  intro d peer hpeer
  cases hpeer

/-! ## The law of refusals -/

/-- A packet more at `now` than the window from `t` may hold. -/
def OverPackets (config : Config) (admitted : List Admitted) (t now : TimePoint) : Prop :=
  config.packetburst + config.packetspersecond * seconds (now - t) <
    (within admitted t now).length + 1

/-- So many bytes more at `now` than the window from `t` may hold. -/
def OverBytes (config : Config) (admitted : List Admitted) (bytes : Nat) (t now : TimePoint) :
    Prop :=
  config.byteburst + config.bytespersecond * seconds (now - t) <
    ((within admitted t now).map Admitted.bytes).sum + bytes

/-- A packet that comes to the limiter is routed or refused for its rate. -/
theorem verdict_of_maySend {now : TimePoint} {packet : UplinkPacket}
    (hvalid : validateTeamVoiceUplinkPacket packet = .none)
    (hpeer : router.peers.lookup d = some peer) (hsend : peer.maySend packet = true) :
    verdict router now d packet = .rateLimited ↔
      coversRate router.config now peer packet.payload.length = false := by
  unfold verdict
  rw [if_neg (not_not.mpr hvalid), hpeer]
  dsimp only
  rw [if_neg (not_not.mpr hsend)]
  cases coversRate router.config now peer packet.payload.length <;> decide

variable {config : Config} {clock now : TimePoint} {admitted : List Admitted}

/-- The packet bucket covers one packet unless a window would be exceeded. -/
theorem packets_lack_iff (hbuckets : Buckets config peer clock admitted)
    (htight : Tight config peer admitted) (hconfig : config.Nonnegative) (hnow : clock ≤ now) :
    (Voice.refill config now peer).packettokens < 1 ↔
      ∃ t ≤ now, OverPackets config admitted t now := by
  have hcovers := TokenBucket.covers_iff (hbuckets.refill hconfig hnow).packets
    (htight.refill hbuckets hnow).packets 1
  rw [← not_le, hcovers]
  simp only [clocks, Set.forall_mem_range, not_forall, not_le]
  constructor
  · rintro ⟨t, ht, hover⟩
    refine ⟨t, seconds_le.mp ht, ?_⟩
    unfold OverPackets
    rwa [seconds_sub, ← nsmul_one, ← List.sum_replicate, ← List.map_const', ← taken_takings]
  · rintro ⟨t, ht, hover⟩
    refine ⟨t, seconds_le.mpr ht, ?_⟩
    unfold OverPackets at hover
    rwa [seconds_sub, ← nsmul_one, ← List.sum_replicate, ← List.map_const', ← taken_takings]
      at hover

/-- The byte bucket covers so many bytes unless a window would be exceeded. -/
theorem bytes_lack_iff (hbuckets : Buckets config peer clock admitted)
    (htight : Tight config peer admitted) (hconfig : config.Nonnegative) (hnow : clock ≤ now)
    (bytes : Nat) :
    (Voice.refill config now peer).bytetokens < bytes ↔
      ∃ t ≤ now, OverBytes config admitted bytes t now := by
  have hcovers := TokenBucket.covers_iff (hbuckets.refill hconfig hnow).bytes
    (htight.refill hbuckets hnow).bytes bytes
  have hsum : ∀ t, (((within admitted t now).map Admitted.bytes).sum : ℚ) =
      TokenBucket.taken (takings (fun a => a.bytes) admitted) (seconds t) (seconds now) := by
    intro t
    rw [taken_takings, Nat.cast_list_sum, List.map_map]
    rfl
  rw [← not_le, hcovers]
  simp only [clocks, Set.forall_mem_range, not_forall, not_le]
  constructor
  · rintro ⟨t, ht, hover⟩
    refine ⟨t, seconds_le.mp ht, ?_⟩
    unfold OverBytes
    rwa [seconds_sub, hsum]
  · rintro ⟨t, ht, hover⟩
    refine ⟨t, seconds_le.mpr ht, ?_⟩
    unfold OverBytes at hover
    rwa [seconds_sub, hsum] at hover

theorem coversRate_eq_false {bytes : Nat} :
    coversRate config now peer bytes = false ↔
      (Voice.refill config now peer).packettokens < 1 ∨
        (Voice.refill config now peer).bytetokens < bytes := by
  rw [← Bool.not_eq_true, coversRate_iff, not_and_or, not_le, not_le]

/-- **When a packet is refused for its rate**, by exact buckets.  In every state of
every run, a valid packet of a peer that may send is refused for its rate if and
only if some window up to now would hold, with it, more packets than the packet
burst and rate allow, or more bytes than the byte burst and rate allow.  In
particular a peer that keeps within both is never refused. -/
theorem rate_refusal_exact {m : Metered} (hconfig : config.Nonnegative)
    (h : Exec.Reached meteredStep (Metered.start config clock) m) (hnow : m.clock ≤ now)
    {c : ConnectionId} (hpeer : m.router.peers.lookup c = some peer) {packet : UplinkPacket}
    (hvalid : validateTeamVoiceUplinkPacket packet = .none)
    (hsend : peer.maySend packet = true) :
    verdict m.router now c packet = .rateLimited ↔
      (∃ t ≤ now, OverPackets config (m.admitted c) t now) ∨
        ∃ t ≤ now, OverBytes config (m.admitted c) packet.payload.length t now := by
  have hexact := Metered.Exact.reached hconfig h
  have hbuckets := hexact.inv.buckets c peer hpeer
  have htight := hexact.tight c peer hpeer (Peer.maySend_iff.mp hsend).1
  rw [verdict_of_maySend hvalid hpeer hsend, hexact.inv.configured, coversRate_eq_false,
    packets_lack_iff hbuckets htight hconfig hnow, bytes_lack_iff hbuckets htight hconfig hnow]

/-- A burst of one packet: the second packet of an instant is one too many. -/
theorem rate_refusal_exact_burst :
    let config : Config := { packetburst := 1 }
    ∃ m : Metered, (∃ t ≤ (5 : TimePoint), OverPackets config (m.admitted 1) t 5) ∨
      ∃ t ≤ (5 : TimePoint), OverBytes config (m.admitted 1) 1 t 5 := by
  intro config
  let granted : PeerState := ⟨7, 1, 9, true, true⟩
  let hello : UplinkPacket :=
    { sessionid := 9, membershipgeneration := 1, streamgeneration := 1, payload := [0xf8] }
  let actions : List RouterStep :=
    [.addPeer 0 1 true, .beginControl 0 1 (some granted), .confirmControl ⟨1, some granted, 0, 1⟩,
      .handleVoicePacket 5 1 hello fun _ => true]
  obtain ⟨m, hm, htest⟩ := @Exec.exec_any _ _ meteredStep (Metered.start config 0) actions
    (fun m => m.clock ≤ 5 ∧ verdict m.router 5 1 hello = .rateLimited ∧
      (m.router.peers.lookup 1).any fun peer => peer.maySend hello)
    (by decide +kernel)
  obtain ⟨hclock, hverdict, hpeers⟩ := of_decide_eq_true htest
  obtain ⟨peer, hpeer, hsend⟩ := (Option.any_eq_true _ _).mp hpeers
  have hconfig : config.Nonnegative := by constructor <;> norm_num [config]
  exact ⟨m, (rate_refusal_exact hconfig ⟨actions, hm⟩ hclock hpeer (by decide) hsend).mp hverdict⟩

/-! ## Byte buckets that are large enough -/

/-- The byte bucket allows for the longest packet with every token of the packet
bucket. -/
structure Config.BytesSuffice (config : Config) : Prop where
  burst : networkMaxOpusBytes * config.packetburst ≤ config.byteburst
  rate : networkMaxOpusBytes * config.packetspersecond ≤ config.bytespersecond

/-- So do the tokens of every peer. -/
def Metered.Suffices (m : Metered) : Prop :=
  ∀ d peer, m.router.peers.lookup d = some peer →
    networkMaxOpusBytes * peer.packettokens ≤ peer.bytetokens

theorem payload_length_le {packet : UplinkPacket}
    (hvalid : validateTeamVoiceUplinkPacket packet = .none) :
    packet.payload.length ≤ networkMaxOpusBytes := by
  have hpayload := (validateTeamVoiceUplinkPacket_none.mp hvalid).2.2.2.2.2
  unfold validatePayload at hpayload
  split_ifs at hpayload with hempty hlong
  exact not_lt.mp hlong

/-- What is admitted is no longer than the longest packet. -/
theorem admission_bytes {a : Admitted} (h : action.admission router d = some a) :
    a.bytes ≤ networkMaxOpusBytes := by
  unfold RouterStep.admission at h
  split at h
  · rename_i now c packet sendOk
    split_ifs at h with hrouted
    obtain rfl := Option.some.inj h
    have hvalid : validateTeamVoiceUplinkPacket packet = .none := by
      by_contra hinvalid
      have hmalformed : verdict router now c packet = .malformed := if_pos hinvalid
      rw [hmalformed] at hrouted
      exact absurd hrouted.2 (by decide)
    exact payload_length_le hvalid
  · cases h

/-- A refill keeps the byte tokens ahead. -/
theorem refill_suffices (hbytes : config.BytesSuffice) (hpast : peer.ratetime ≤ now)
    (h : networkMaxOpusBytes * peer.packettokens ≤ peer.bytetokens) :
    networkMaxOpusBytes * (Voice.refill config now peer).packettokens ≤
      (Voice.refill config now peer).bytetokens := by
  have helapsed : (0 : ℚ) ≤ ((now - peer.ratetime : Int) : ℚ) / 1000000000 :=
    div_nonneg (Int.cast_nonneg (sub_nonneg.mpr hpast)) (by norm_num)
  have hmax : (0 : ℚ) ≤ networkMaxOpusBytes := Nat.cast_nonneg _
  have hgain := mul_le_mul_of_nonneg_left hbytes.rate helapsed
  refine le_min ?_ ?_
  · exact (mul_le_mul_of_nonneg_left (min_le_left _ _) hmax).trans hbytes.burst
  · refine (mul_le_mul_of_nonneg_left (min_le_right _ _) hmax).trans ?_
    rw [mul_add, mul_left_comm]
    exact add_le_add h hgain

/-- What `consumeRate` admits keeps the byte tokens ahead. -/
theorem consumeRate_suffices {bytes : Nat} (hbytes : config.BytesSuffice)
    (hpast : peer.ratetime ≤ now)
    (hlength : coversRate config now peer bytes = true → bytes ≤ networkMaxOpusBytes)
    (h : networkMaxOpusBytes * peer.packettokens ≤ peer.bytetokens) :
    networkMaxOpusBytes * (consumeRate config now peer bytes).1.packettokens ≤
      (consumeRate config now peer bytes).1.bytetokens := by
  have hrefill := refill_suffices hbytes hpast h
  unfold consumeRate
  split_ifs with hcovers
  · have hcast : (bytes : ℚ) ≤ networkMaxOpusBytes := Nat.cast_le.mpr (hlength hcovers)
    show networkMaxOpusBytes * ((Voice.refill config now peer).packettokens - 1) ≤
      (Voice.refill config now peer).bytetokens - bytes
    rw [mul_sub, mul_one]
    exact sub_le_sub hrefill hcast
  · exact hrefill

/-- **Every action keeps the byte tokens ahead.** -/
theorem Metered.Suffices.step (hbytes : config.BytesSuffice) {m m' : Metered}
    (hinv : m.Inv config) (h : m.Suffices) (hstep : meteredStep m action = some m') :
    m'.Suffices := by
  intro d peer' hpeer'
  obtain ⟨hclock, -, hrouter, -⟩ := meteredStep_eq_some hstep
  rw [hrouter] at hpeer'
  have hconfigured := hinv.configured
  cases lookup_apply hpeer' with
  | filled now packettokens bytetokens changed =>
      rw [packettokens, bytetokens, hconfigured]
      exact hbytes.burst
  | kept peer before same none =>
      simp only [Peer.buckets, Prod.mk.injEq] at same
      rw [same.1, same.2.1]
      exact h d peer before
  | consumed peer now bytes before now? after admission =>
      rw [now?] at hclock
      rw [after, hconfigured]
      refine consumeRate_suffices hbytes ((hinv.buckets d peer before).past.trans hclock)
        (fun hcovers => ?_) (h d peer before)
      rw [hconfigured, hcovers, if_pos rfl] at admission
      exact admission_bytes admission

/-- **The byte bucket is never the reason** when it allows for the longest packet
with every token of the packet bucket: a valid packet of a peer that may send is
refused for its rate if and only if some window would hold too many packets. -/
theorem byte_limit_idle {m : Metered} (hconfig : config.Nonnegative)
    (hbytes : config.BytesSuffice)
    (h : Exec.Reached meteredStep (Metered.start config clock) m) (hnow : m.clock ≤ now)
    {c : ConnectionId} (hpeer : m.router.peers.lookup c = some peer) {packet : UplinkPacket}
    (hvalid : validateTeamVoiceUplinkPacket packet = .none)
    (hsend : peer.maySend packet = true) :
    verdict m.router now c packet = .rateLimited ↔
      ∃ t ≤ now, OverPackets config (m.admitted c) t now := by
  have hsuffices : m.Inv config ∧ m.Suffices := by
    refine h.invariant (fun m => m.Inv config ∧ m.Suffices)
      ⟨.reached hconfig ⟨[], rfl⟩, fun _ _ hpeer => by cases hpeer⟩ ?_
    intro s action t hs ht
    exact ⟨hs.1.step hconfig ht, hs.2.step hbytes hs.1 ht⟩
  have hexact := Metered.Exact.reached hconfig h
  have hbuckets := hexact.inv.buckets c peer hpeer
  have htight := hexact.tight c peer hpeer (Peer.maySend_iff.mp hsend).1
  have hahead := refill_suffices hbytes (hbuckets.past.trans hnow) (hsuffices.2 c peer hpeer)
  rw [verdict_of_maySend hvalid hpeer hsend, hexact.inv.configured, coversRate_eq_false,
    ← packets_lack_iff hbuckets htight hconfig hnow]
  refine or_iff_left_of_imp fun hbyte => ?_
  by_contra hpacket
  have hmax : (0 : ℚ) ≤ networkMaxOpusBytes := Nat.cast_nonneg _
  have hone := mul_le_mul_of_nonneg_left (not_lt.mp hpacket) hmax
  have hcast : (packet.payload.length : ℚ) ≤ networkMaxOpusBytes :=
    Nat.cast_le.mpr (payload_length_le hvalid)
  linarith

/-- The default configuration: no window holds too many packets after the first. -/
theorem byte_limit_idle_default :
    ∃ m : Metered, (m.admitted 1).length = 1 ∧
      ¬ ∃ t ≤ (5 : TimePoint), OverPackets {} (m.admitted 1) t 5 := by
  let granted : PeerState := ⟨7, 1, 9, true, true⟩
  let hello : UplinkPacket :=
    { sessionid := 9, membershipgeneration := 1, streamgeneration := 1, payload := [0xf8] }
  let actions : List RouterStep :=
    [.addPeer 0 1 true, .beginControl 0 1 (some granted), .confirmControl ⟨1, some granted, 0, 1⟩,
      .handleVoicePacket 5 1 hello fun _ => true]
  obtain ⟨m, hm, htest⟩ := @Exec.exec_any _ _ meteredStep (Metered.start {} 0) actions
    (fun m => m.clock ≤ 5 ∧ verdict m.router 5 1 hello ≠ .rateLimited ∧
      (m.admitted 1).length = 1 ∧
      (m.router.peers.lookup 1).any fun peer => peer.maySend hello)
    (by decide +kernel)
  obtain ⟨hclock, hverdict, hone, hpeers⟩ := of_decide_eq_true htest
  obtain ⟨peer, hpeer, hsend⟩ := (Option.any_eq_true _ _).mp hpeers
  have hconfig : Config.Nonnegative {} := by constructor <;> norm_num
  have hbytes : Config.BytesSuffice {} := by constructor <;> norm_num [networkMaxOpusBytes]
  exact ⟨m, hone, fun hover => hverdict
    ((byte_limit_idle hconfig hbytes ⟨actions, hm⟩ hclock hpeer (by decide) hsend).mpr hover)⟩

end Voice
