import GipMultiplayer.Keepalives
import GipMultiplayer.Leases

/-!
# The silence of a host

A client gives its host up after eight seconds without a packet.  It counts in
frames of its own, does not count a stalled one, and looks at its packets at the
start of a frame, so what it counts is not what has passed.  The host sends a
keepalive when its own timer is past a second, in frames of its own.

* `Link`, `linkStep` — a host, the way to one client, and the client;
* `Link.Watched` — a client that has not given up has counted;
* `Link.Alive` — the host's keepalives are a lease, and the client does not count
  past it;
* `silence_detector` — a host in time is not given up, and a silent one is.
-/

namespace GameBackend

open Remote (stalledFrameSeconds silenceSeconds)

/-! ## The link -/

/-- A host and one client.  `wire` has the times at which the packets under way
were sent, of those that the client queues.  Written down for the law: when a
packet was queued last, or a stalled frame ended. -/
structure Link where
  now : ℚ
  host : Clocks
  hostFrame : ℚ
  wire : List ℚ
  client : Clocks
  clientFrame : ℚ
  packetQueue : Nat
  heard : ℚ

/-- Time passes; a frame of the host, with the packets it has got; the host sends
something else; a packet arrives; a frame of the client. -/
inductive LinkAction
  | pass (time : ℚ)
  | hostUpdate (packets : Nat)
  | send
  | arrive
  | clientUpdate

/-- The frame of the host. -/
def Link.hostLatest (s : Link) (packets : Nat) : Frame :=
  { deltaTime := s.now - s.hostFrame, packets := packets }

/-- The frame of the client, which swaps its queue out. -/
def Link.clientLatest (s : Link) : Frame :=
  { deltaTime := s.now - s.clientFrame, packets := s.packetQueue }

/-- One step.  Pongs and voice are not queued by the client and count for
nothing. -/
def linkStep (s : Link) : LinkAction → Option Link
  | .pass time => if 0 ≤ time then some { s with now := s.now + time } else none
  | .hostUpdate packets =>
      let (host, sent) := update s.host (s.hostLatest packets)
      some { s with
        host := host
        hostFrame := s.now
        wire := s.wire ++ (sent.filter (· = .keepAlive)).map fun _ => s.now }
  | .send => some { s with wire := s.wire ++ [s.now] }
  | .arrive =>
      match s.wire with
      | [] => none
      | _ :: rest =>
          some { s with wire := rest, packetQueue := s.packetQueue + 1, heard := s.now }
  | .clientUpdate =>
      some { s with
        client := (update s.client s.clientLatest).1
        clientFrame := s.now
        packetQueue := 0
        heard := if stalledFrameSeconds < s.clientLatest.deltaTime then s.now else s.heard }

/-- The frames of the host and its packets are on time. -/
structure Link.OnTime (frame delay : ℚ) (s : Link) : Prop where
  host : s.now ≤ s.hostFrame + frame
  wire : ∀ sent ∈ s.wire, s.now ≤ sent + delay

instance (frame delay : ℚ) (s : Link) : Decidable (s.OnTime frame delay) :=
  decidable_of_iff (s.now ≤ s.hostFrame + frame ∧ ∀ sent ∈ s.wire, s.now ≤ sent + delay)
    ⟨fun h => ⟨h.1, h.2⟩, fun h => ⟨h.host, h.wire⟩⟩

/-- The client has got its first packet. -/
structure Link.Connected (s : Link) : Prop where
  isServer : s.host.isServer = true
  running : s.host.disconnectNotified = false
  timer : 0 ≤ s.host.keepAliveTimer ∧ s.host.keepAliveTimer ≤ 1
  hostFrame : s.hostFrame ≤ s.now
  wire : s.wire = []
  isClient : s.client.isServer = false
  unnotified : s.client.disconnectNotified = false
  clientFrame : s.clientFrame ≤ s.now
  queued : 0 < s.packetQueue
  heard : s.heard = s.now

variable {clocks : Clocks} {frame : Frame} {s t : Link}

/-! ## Frames -/

/-- Packets end the silence. -/
theorem received_eq (n : Nat) (clocks : Clocks) :
    onPacketReceived^[n] clocks =
      { clocks with
        timeSinceLastKeepAlive := if n = 0 then clocks.timeSinceLastKeepAlive else 0 } := by
  cases n with
  | zero => rfl
  | succ n =>
      rw [if_neg (Nat.succ_ne_zero n)]
      induction n generalizing clocks with
      | zero => rfl
      | succ n ih =>
          rw [Function.iterate_succ_apply]
          exact ih (onPacketReceived clocks)

/-- **A frame of the host** that has not stalled. -/
theorem update_server (hserver : clocks.isServer = true)
    (hrunning : clocks.disconnectNotified = false)
    (hshort : frame.deltaTime ≤ stalledFrameSeconds) (htasks : frame.tasks = 0) :
    (update clocks frame).1.isServer = true ∧
      (update clocks frame).1.disconnectNotified = false ∧
      if 1 < clocks.keepAliveTimer + frame.deltaTime then
        (update clocks frame).1.keepAliveTimer = 0 ∧ (update clocks frame).2 = [.keepAlive]
      else
        (update clocks frame).1.keepAliveTimer = clocks.keepAliveTimer + frame.deltaTime ∧
          (update clocks frame).2 = [] := by
  unfold update advanceKeepAlive
  dsimp only
  rw [if_neg hshort.not_gt, htasks, Function.iterate_zero_apply, received_eq]
  dsimp only
  have hbase : ¬ clocks.isServer = false := by simp [hserver]
  rw [if_pos hrunning]
  by_cases hfires : 1 < clocks.keepAliveTimer + frame.deltaTime
  · rw [if_pos hfires, if_pos hfires]
    dsimp only
    rw [if_neg hbase]
    exact ⟨hserver, hrunning, rfl, rfl⟩
  · rw [if_neg hfires, if_neg hfires]
    dsimp only
    rw [if_neg hbase]
    exact ⟨hserver, hrunning, rfl, rfl⟩

/-- A stalled frame. -/
theorem update_of_stalled (hstalled : stalledFrameSeconds < frame.deltaTime)
    (htasks : frame.tasks = 0) :
    (update clocks frame).1.isServer = clocks.isServer ∧
      (update clocks frame).1.disconnectNotified = clocks.disconnectNotified ∧
      (update clocks frame).1.timeSinceLastKeepAlive = 0 := by
  unfold update
  dsimp only
  rw [if_pos hstalled, htasks, Function.iterate_zero_apply, received_eq]
  exact ⟨rfl, rfl, rfl⟩

/-- What a client has counted after a frame. -/
def silence (clocks : Clocks) (frame : Frame) : ℚ :=
  (if frame.packets = 0 then clocks.timeSinceLastKeepAlive else 0) + frame.deltaTime

theorem advanceKeepAlive_eq_timer (clocks : Clocks) (deltaTime : ℚ) :
    ∃ timer, (advanceKeepAlive clocks deltaTime).1 = { clocks with keepAliveTimer := timer } := by
  unfold advanceKeepAlive
  split_ifs
  · exact ⟨_, rfl⟩
  · exact ⟨_, rfl⟩
  · exact ⟨clocks.keepAliveTimer, rfl⟩

theorem advancePing_eq_timer (clocks : Clocks) (deltaTime : ℚ) :
    ∃ timer, (advancePing clocks deltaTime).1 = { clocks with pingTimer := timer } := by
  unfold advancePing
  split_ifs
  · exact ⟨_, rfl⟩
  · exact ⟨_, rfl⟩
  · exact ⟨clocks.pingTimer, rfl⟩

/-- **A frame of a client** that has not stalled. -/
theorem update_client (hclient : clocks.isServer = false)
    (hunnotified : clocks.disconnectNotified = false)
    (hshort : frame.deltaTime ≤ stalledFrameSeconds) (htasks : frame.tasks = 0) :
    (update clocks frame).1.isServer = false ∧
      (update clocks frame).1.timeSinceLastKeepAlive = silence clocks frame ∧
      ((update clocks frame).1.disconnectNotified = true ↔
        silenceSeconds < silence clocks frame) := by
  unfold update
  dsimp only
  rw [if_neg hshort.not_gt, htasks, Function.iterate_zero_apply, received_eq]
  obtain ⟨timer, htimer⟩ := advanceKeepAlive_eq_timer
    { clocks with
      timeSinceLastKeepAlive := if frame.packets = 0 then clocks.timeSinceLastKeepAlive else 0 }
    frame.deltaTime
  rw [htimer]
  dsimp only
  rw [if_pos hclient]
  unfold advanceSilence
  dsimp only
  by_cases hlate : silenceSeconds < silence clocks frame
  · rw [if_pos ⟨hlate, hunnotified⟩]
    exact ⟨hclient, rfl, iff_of_true rfl hlate⟩
  · rw [if_neg fun h => hlate h.1]
    obtain ⟨ping, hping⟩ := advancePing_eq_timer
      { clocks with
        timeSinceLastKeepAlive := silence clocks frame
        keepAliveTimer := timer } frame.deltaTime
    unfold silence at hping
    rw [hping]
    exact ⟨hclient, rfl, iff_of_false (by simp [hunnotified]) hlate⟩

/-! ## A client that has not given up -/

/-- **What a client has counted**: what lies between its last frame and the last
packet before it. -/
structure Link.Watched (s : Link) : Prop where
  isClient : s.client.isServer = false
  unnotified : s.client.disconnectNotified = false
  clientFrame : s.clientFrame ≤ s.now
  heard : s.heard ≤ s.now
  queued : s.packetQueue ≠ 0 → s.clientFrame ≤ s.heard
  counted : s.packetQueue = 0 → s.clientFrame ≤ s.heard + s.client.timeSinceLastKeepAlive ∧
    s.client.timeSinceLastKeepAlive ≤ silenceSeconds

theorem Link.Connected.watched (h : s.Connected) : s.Watched where
  isClient := h.isClient
  unnotified := h.unnotified
  clientFrame := h.clientFrame
  heard := h.heard.le
  queued := fun _ => h.clientFrame.trans h.heard.ge
  counted := fun hnone => absurd hnone h.queued.ne'

/-- A frame of the client. -/
theorem Link.Watched.clientUpdate (h : s.Watched)
    (hunnotified : (update s.client s.clientLatest).1.disconnectNotified = false) :
    Link.Watched { s with
      client := (update s.client s.clientLatest).1
      clientFrame := s.now
      packetQueue := 0
      heard := if stalledFrameSeconds < s.clientLatest.deltaTime then s.now else s.heard } := by
  have hframe : s.clientLatest.deltaTime = s.now - s.clientFrame := rfl
  rcases lt_or_ge stalledFrameSeconds s.clientLatest.deltaTime with hstalled | hshort
  · obtain ⟨hsame, -, hzero⟩ := @update_of_stalled s.client _ hstalled rfl
    rw [if_pos hstalled]
    refine ⟨hsame.trans h.isClient, hunnotified, le_rfl, le_rfl, fun hsome => absurd rfl hsome,
      fun _ => ?_⟩
    dsimp only
    rw [hzero, add_zero]
    exact ⟨le_rfl, by unfold silenceSeconds; norm_num⟩
  · obtain ⟨hclient, hcounted, hgiven⟩ := update_client h.isClient h.unnotified hshort rfl
    rw [if_neg hshort.not_gt]
    refine ⟨hclient, hunnotified, le_rfl, h.heard, fun hsome => absurd rfl hsome, fun _ => ?_⟩
    have hkept : ¬ silenceSeconds < silence s.client s.clientLatest := fun hlate => by
      rw [hgiven.mpr hlate] at hunnotified
      cases hunnotified
    dsimp only
    rw [hcounted]
    refine ⟨?_, not_lt.mp hkept⟩
    unfold silence
    by_cases hnone : s.packetQueue = 0
    · have hbefore := (h.counted hnone).1
      rw [if_pos (show s.clientLatest.packets = 0 from hnone), hframe]
      linarith
    · have hbefore := h.queued hnone
      rw [if_neg (show ¬ s.clientLatest.packets = 0 from hnone), hframe]
      linarith

/-- **One step**, after which the client has not given up. -/
theorem watched_step {action : LinkAction} (hstep : linkStep s action = some t)
    (hbefore : s.client.disconnectNotified = false → s.Watched)
    (hafter : t.client.disconnectNotified = false) : t.Watched := by
  cases action with
  | pass time =>
      obtain ⟨htime, heq⟩ := Option.ite_none_right_eq_some.mp hstep
      obtain rfl := Option.some.inj heq
      have h := hbefore hafter
      exact
        { h with
          clientFrame := h.clientFrame.trans (le_add_of_nonneg_right htime)
          heard := h.heard.trans (le_add_of_nonneg_right htime) }
  | hostUpdate packets =>
      obtain rfl := Option.some.inj hstep
      exact { hbefore hafter with }
  | send =>
      obtain rfl := Option.some.inj hstep
      exact { hbefore hafter with }
  | arrive =>
      cases hwire : s.wire with
      | nil =>
          simp only [linkStep, hwire] at hstep
          cases hstep
      | cons sent rest =>
          simp only [linkStep, hwire] at hstep
          obtain rfl := Option.some.inj hstep
          have h := hbefore hafter
          exact
            { h with
              heard := le_rfl
              queued := fun _ => h.clientFrame
              counted := fun hnone => absurd hnone (Nat.succ_ne_zero _) }
  | clientUpdate =>
      obtain rfl := Option.some.inj hstep
      exact (hbefore (update_tick hafter).1).clientUpdate hafter

/-! ## A host that is on time -/

/-- The keepalives as renewals of a lease; other packets count for one. -/
def Link.lease (s : Link) (sent told : ℚ) : Lease.State ℚ :=
  ⟨s.now, s.hostFrame, s.host.keepAliveTimer, s.wire, 0, 0, sent, told⟩

/-- **The client does not count past the lease**; `told` is when the last packet
that it has queued was sent. -/
structure Link.Alive (timing : Lease.Timing ℚ) (s : Link) (sent told : ℚ) : Prop where
  lease : Lease.Renewed timing (s.lease sent told)
  isServer : s.host.isServer = true
  running : s.host.disconnectNotified = false
  isClient : s.client.isServer = false
  unnotified : s.client.disconnectNotified = false
  clientFrame : s.clientFrame ≤ s.now
  counted : s.packetQueue = 0 →
    s.client.timeSinceLastKeepAlive + told ≤ s.clientFrame + stalledFrameSeconds

variable {timing : Lease.Timing ℚ} {sent told : ℚ}

theorem Link.Connected.alive (h : s.Connected) (hperiod : 1 < timing.period)
    (hontime : s.OnTime timing.frame timing.delay) : s.Alive timing s.now s.now where
  lease := by
    have hstart : Lease.Renewed timing
        ⟨s.now, s.hostFrame, s.host.keepAliveTimer, [s.now], 0, 0, s.now, s.now⟩ :=
      Lease.Renewed.start h.hostFrame h.timer.1 (lt_of_le_of_lt h.timer.2 hperiod) hontime.host
    unfold Link.lease
    rw [h.wire]
    exact hstart.arrive rfl
  isServer := h.isServer
  running := h.running
  isClient := h.isClient
  unnotified := h.unnotified
  clientFrame := h.clientFrame
  counted := fun hnone => absurd hnone h.queued.ne'

/-- A frame of the host. -/
theorem Link.Alive.hostUpdate (h : s.Alive timing sent told) (hperiod : 1 < timing.period)
    (hframe : timing.frame ≤ stalledFrameSeconds) (packets : Nat) :
    ∃ sent, Link.Alive timing
      { s with
        host := (update s.host (s.hostLatest packets)).1
        hostFrame := s.now
        wire := s.wire ++
          ((update s.host (s.hostLatest packets)).2.filter (· = .keepAlive)).map fun _ => s.now }
      sent told := by
  have hholder : s.now ≤ s.hostFrame + timing.frame := h.lease.prompt.holder
  have hshort : (s.hostLatest packets).deltaTime ≤ stalledFrameSeconds := by
    show s.now - s.hostFrame ≤ stalledFrameSeconds
    linarith
  obtain ⟨hserver, hrunning, htimer⟩ := update_server h.isServer h.running hshort rfl
  by_cases hfires : 1 < s.host.keepAliveTimer + (s.hostLatest packets).deltaTime
  · rw [if_pos hfires] at htimer
    refine ⟨s.now, { h with lease := ?_, isServer := hserver, running := hrunning }⟩
    unfold Link.lease
    dsimp only
    rw [htimer.1, htimer.2]
    exact h.lease.fire
  · rw [if_neg hfires] at htimer
    refine ⟨sent, { h with lease := ?_, isServer := hserver, running := hrunning }⟩
    unfold Link.lease
    dsimp only
    rw [htimer.1, htimer.2, List.filter_nil, List.map_nil, List.append_nil]
    exact h.lease.wait (lt_of_le_of_lt (not_lt.mp hfires) hperiod)

/-- **A frame of the client** does not give the host up. -/
theorem Link.Alive.clientUpdate (h : s.Alive timing sent told)
    (hlate : timing.period + timing.frame + timing.delay + stalledFrameSeconds ≤ silenceSeconds)
    (heard : ℚ) :
    Link.Alive timing { s with
      client := (update s.client s.clientLatest).1
      clientFrame := s.now
      packetQueue := 0
      heard := heard } sent told := by
  have hframe : s.clientLatest.deltaTime = s.now - s.clientFrame := rfl
  have hrecent : s.now ≤ told + (timing.period + timing.frame + timing.delay) :=
    h.lease.heard_recent
  have htold : told ≤ s.now := h.lease.past told List.mem_cons_self
  rcases lt_or_ge stalledFrameSeconds s.clientLatest.deltaTime with hstalled | hshort
  · obtain ⟨hsame, hnotified, hzero⟩ := @update_of_stalled s.client _ hstalled rfl
    refine { h with
      isClient := hsame.trans h.isClient
      unnotified := hnotified.trans h.unnotified
      clientFrame := le_rfl
      counted := fun _ => ?_ }
    have hpos : 0 ≤ stalledFrameSeconds := by unfold stalledFrameSeconds; norm_num
    dsimp only
    rw [hzero]
    linarith
  · obtain ⟨hclient, hcounted, hgiven⟩ := update_client h.isClient h.unnotified hshort rfl
    have hsilence : silence s.client s.clientLatest + told ≤ s.now + stalledFrameSeconds := by
      unfold silence
      by_cases hnone : s.packetQueue = 0
      · have hbefore := h.counted hnone
        rw [if_pos (show s.clientLatest.packets = 0 from hnone), hframe]
        linarith
      · rw [if_neg (show ¬ s.clientLatest.packets = 0 from hnone)]
        linarith
    refine { h with
      isClient := hclient
      unnotified := ?_
      clientFrame := le_rfl
      counted := fun _ => by dsimp only; rw [hcounted]; exact hsilence }
    rw [← Bool.not_eq_true, hgiven]
    linarith

/-- **One step**, after which the host and its packets are on time. -/
theorem Link.Alive.step (h : s.Alive timing sent told) (hperiod : 1 < timing.period)
    (hframe : timing.frame ≤ stalledFrameSeconds)
    (hlate : timing.period + timing.frame + timing.delay + stalledFrameSeconds ≤ silenceSeconds)
    {action : LinkAction} (hstep : linkStep s action = some t)
    (hontime : t.OnTime timing.frame timing.delay) : ∃ sent told, t.Alive timing sent told := by
  cases action with
  | pass time =>
      obtain ⟨htime, heq⟩ := Option.ite_none_right_eq_some.mp hstep
      obtain rfl := Option.some.inj heq
      exact ⟨sent, told,
        { h with
          lease := h.lease.pass htime ⟨hontime.host, hontime.wire⟩
          clientFrame := h.clientFrame.trans (le_add_of_nonneg_right htime) }⟩
  | hostUpdate packets =>
      obtain rfl := Option.some.inj hstep
      obtain ⟨sent, hafter⟩ := h.hostUpdate hperiod hframe packets
      exact ⟨sent, told, hafter⟩
  | send =>
      obtain rfl := Option.some.inj hstep
      exact ⟨s.now, told, { h with lease := h.lease.renew }⟩
  | arrive =>
      cases hwire : s.wire with
      | nil =>
          simp only [linkStep, hwire] at hstep
          cases hstep
      | cons first rest =>
          simp only [linkStep, hwire] at hstep
          obtain rfl := Option.some.inj hstep
          exact ⟨sent, first,
            { h with
              lease := h.lease.arrive hwire
              counted := fun hnone => absurd hnone (Nat.succ_ne_zero _) }⟩
  | clientUpdate =>
      obtain rfl := Option.some.inj hstep
      exact ⟨sent, told, h.clientUpdate hlate _⟩

/-! ## The law -/

/-- **The silence timeout is a failure detector.**  From the first packet on, a
client does not give up a host whose frames and packets are on time, however long
its own frames stall.  And whatever happens, a client that has not given up had,
at its last frame, a packet or the end of a stall within the last eight seconds. -/
theorem silence_detector {s₀ : Link} (h₀ : s₀.Connected) {frame delay : ℚ}
    (hdelay : 0 ≤ delay) (hframe : frame ≤ stalledFrameSeconds)
    (hlate : 1 + frame + delay + stalledFrameSeconds < silenceSeconds) :
    (∀ s, s₀.OnTime frame delay →
      Exec.ReachedAlong linkStep (fun s action => ∀ t ∈ linkStep s action, t.OnTime frame delay)
        s₀ s → s.client.disconnectNotified = false) ∧
    ∀ s, Exec.Reached linkStep s₀ s → s.client.disconnectNotified = false →
      s.clientFrame ≤ s.heard + silenceSeconds := by
  constructor
  · intro s hontime h
    -- The timer has fired before any period of more than a second is over.
    let timing : Lease.Timing ℚ :=
      ⟨silenceSeconds - stalledFrameSeconds - delay - frame, frame, delay, 0, by linarith, hdelay⟩
    have hperiod : 1 < timing.period := by
      show 1 < silenceSeconds - stalledFrameSeconds - delay - frame
      linarith
    have hsum : timing.period + timing.frame + timing.delay + stalledFrameSeconds ≤
        silenceSeconds := by
      show silenceSeconds - stalledFrameSeconds - delay - frame + frame + delay +
        stalledFrameSeconds ≤ silenceSeconds
      linarith
    have halive : ∃ sent told, s.Alive timing sent told :=
      h.invariant (fun s => ∃ sent told, s.Alive timing sent told)
        ⟨_, _, h₀.alive hperiod hontime⟩
        fun _ _ t ⟨_, _, hbefore⟩ hok hstep => hbefore.step hperiod hframe hsum hstep (hok t hstep)
    obtain ⟨_, _, hend⟩ := halive
    exact hend.unnotified
  · intro s h hunnotified
    have hwatched : s.client.disconnectNotified = false → s.Watched :=
      h.invariant (fun s => s.client.disconnectNotified = false → s.Watched)
        (fun _ => h₀.watched) fun _ _ _ hbefore hstep => watched_step hstep hbefore
    obtain ⟨-, -, -, -, hqueued, hcounted⟩ := hwatched hunnotified
    by_cases hnone : s.packetQueue = 0
    · have hcount := hcounted hnone
      linarith
    · have hpos : 0 ≤ silenceSeconds := by unfold silenceSeconds; norm_num
      exact (hqueued hnone).trans (le_add_of_nonneg_right hpos)

/-- A link on which the first packet has arrived. -/
def sampleLink : Link where
  now := 0
  host := { isServer := true, keepAliveTimer := 1 / 10 }
  hostFrame := 0
  wire := []
  client := { isServer := false, timeSinceLastKeepAlive := 7 }
  clientFrame := -1 / 5
  packetQueue := 1
  heard := 0

theorem sampleLink_connected : sampleLink.Connected where
  isServer := rfl
  running := rfl
  timer := by constructor <;> norm_num [sampleLink]
  hostFrame := by norm_num [sampleLink]
  wire := rfl
  isClient := rfl
  unnotified := rfl
  clientFrame := by norm_num [sampleLink]
  queued := Nat.one_pos
  heard := rfl

/-- The host runs at five frames a second and sends a keepalive, which arrives
during a stall of the client. -/
def keptAlive : List LinkAction :=
  .clientUpdate :: (List.replicate 6 [.pass (1 / 5), .hostUpdate 1]).flatten ++
    [.pass (1 / 10), .arrive, .clientUpdate, .pass (1 / 10), .clientUpdate]

theorem silence_detector_kept : ∃ s,
    Exec.exec linkStep sampleLink keptAlive = some s ∧ s.now = 7 / 5 ∧
      s.client.timeSinceLastKeepAlive = 1 / 10 ∧ s.client.disconnectNotified = false ∧
      s.clientFrame ≤ s.heard + silenceSeconds := by
  have hrun : (Exec.exec linkStep sampleLink keptAlive).any (fun s =>
      decide (s.now = 7 / 5 ∧ s.client.timeSinceLastKeepAlive = 1 / 10)) = true := by
    decide +kernel
  obtain ⟨s, hs, htest⟩ := Exec.exec_any hrun
  obtain ⟨hnow, hsilence⟩ := of_decide_eq_true htest
  obtain ⟨hkept, hheard⟩ := silence_detector sampleLink_connected
    (show (0 : ℚ) ≤ 1 by norm_num) (show (1 / 5 : ℚ) ≤ stalledFrameSeconds by decide +kernel)
    (by decide +kernel)
  have hunnotified := hkept s (by decide +kernel) ⟨keptAlive, hs, by decide +kernel⟩
  exact ⟨s, hs, hnow, hsilence, hunnotified, hheard s ⟨keptAlive, hs⟩ hunnotified⟩

end GameBackend
