import GipMultiplayer.VoiceProcessor
import GipMultiplayer.VoiceRouter

/-!
# The media barrier of one client

A client is a processor whose samples remember the moment and the gates under
which they were captured.  A change of the gates or of the session opens a new
capture epoch, and every stage between the microphone and the network checks
the epoch; so what `popOutgoingPacket` returns was captured after the last
change, under the gates that are in force when it is popped.

* `CaptureFresh` — the invariant: whatever is still of the current capture
  epoch, in staging, in the capture queue or in the outgoing queue, is live;
* `CaptureFresh.bump` — a new capture epoch outdates everything;
* `Client.Inv`, `Client.perform_inv` — every call of the client keeps it.
-/

namespace Voice

variable {α : Type}

/-! ## Freshness of the capture path -/

/-- Samples stamped with an epoch are live if the epoch is the current one, and
no stamp is ahead of the current epoch. -/
def FreshAt (live : α → Prop) (current epoch : Nat) (samples : List α) : Prop :=
  epoch ≤ current ∧ (epoch = current → ∀ x ∈ samples, live x)

/-- Whatever is still of the current capture epoch is live. -/
structure CaptureFresh (live : α → Prop) (gate : Gate) (capture : Capture α) : Prop where
  staging : capture.staging ≠ [] →
    FreshAt live gate.captureepoch capture.stagingepoch capture.staging
  queue : ∀ frame ∈ capture.queue,
    FreshAt live gate.captureepoch frame.captureepoch frame.samples
  outgoing : ∀ frame ∈ capture.outgoing,
    FreshAt live gate.captureepoch frame.captureepoch frame.pcm

theorem FreshAt.bump {live live' : α → Prop} {current current' epoch : Nat}
    {samples : List α} (h : FreshAt live current epoch samples) (hlt : current < current') :
    FreshAt live' current' epoch samples :=
  ⟨by have := h.1; omega, fun heq => by have := h.1; omega⟩

/-- **A new capture epoch outdates everything.** -/
theorem CaptureFresh.bump {live live' : α → Prop} {gate gate' : Gate} {capture : Capture α}
    (h : CaptureFresh live gate capture) (hlt : gate.captureepoch < gate'.captureepoch) :
    CaptureFresh live' gate' capture where
  staging hne := (h.staging hne).bump hlt
  queue frame hframe := (h.queue frame hframe).bump hlt
  outgoing frame hframe := (h.outgoing frame hframe).bump hlt

/-- One capture path holds nothing that the other does not. -/
structure Capture.Within (capture' capture : Capture α) : Prop where
  staging : capture'.staging = [] ∨
    capture'.staging = capture.staging ∧ capture'.stagingepoch = capture.stagingepoch
  queue : ∀ frame ∈ capture'.queue, frame ∈ capture.queue
  outgoing : ∀ frame ∈ capture'.outgoing, frame ∈ capture.outgoing

theorem Capture.Within.refl (capture : Capture α) : capture.Within capture :=
  ⟨.inr ⟨rfl, rfl⟩, fun _ h => h, fun _ h => h⟩

theorem CaptureFresh.within {live : α → Prop} {gate : Gate} {capture capture' : Capture α}
    (h : CaptureFresh live gate capture) (hsub : capture'.Within capture) :
    CaptureFresh live gate capture' where
  staging hne := by
    rcases hsub.staging with hnil | ⟨hstaging, hepoch⟩
    · exact absurd hnil hne
    · rw [hstaging, hepoch]
      exact h.staging (hstaging ▸ hne)
  queue frame hframe := h.queue frame (hsub.queue frame hframe)
  outgoing frame hframe := h.outgoing frame (hsub.outgoing frame hframe)

/-! ## The capture callback -/

/-- A staging buffer whose contents are of the current epoch and live. -/
def StagingLive (live : α → Prop) (gate : Gate) (capture : Capture α) : Prop :=
  capture.staging ≠ [] →
    capture.stagingepoch = gate.captureepoch ∧ ∀ x ∈ capture.staging, live x

theorem Capture.pushFrame_fresh {live : α → Prop} {gate : Gate} {capture : Capture α}
    (h : CaptureFresh live gate capture) (hlive : StagingLive live gate capture)
    (hne : capture.staging ≠ []) (config : ProcessorConfig) :
    CaptureFresh live gate (capture.pushFrame config) ∧
      StagingLive live gate (capture.pushFrame config) := by
  unfold Capture.pushFrame
  dsimp only
  split_ifs
  · refine ⟨⟨fun hne => absurd rfl hne, fun frame hframe => ?_, h.outgoing⟩,
      fun hne => absurd rfl hne⟩
    rcases List.mem_append.mp hframe with hold | hnew
    · exact h.queue frame hold
    · obtain rfl := List.mem_singleton.mp hnew
      exact ⟨(hlive hne).1.le, fun _ => (hlive hne).2⟩
  · exact ⟨⟨fun hne => absurd rfl hne, h.queue, h.outgoing⟩, fun hne => absurd rfl hne⟩

theorem Capture.openStaging_live {live : α → Prop} {gate : Gate} {capture : Capture α}
    (hlive : StagingLive live gate capture) (offset : Nat) :
    (capture.openStaging gate offset).stagingepoch = gate.captureepoch ∧
      (capture.openStaging gate offset).staging = capture.staging ∧
      (capture.openStaging gate offset).queue = capture.queue ∧
      (capture.openStaging gate offset).outgoing = capture.outgoing ∧
      ∀ x ∈ capture.staging, live x := by
  unfold Capture.openStaging
  split_ifs with hnil
  · exact ⟨rfl, rfl, rfl, rfl, by simp [hnil]⟩
  · exact ⟨(hlive hnil).1, rfl, rfl, rfl, (hlive hnil).2⟩

theorem Capture.copyRound_fresh {live : α → Prop} {gate : Gate} {capture : Capture α}
    {input : List α} (h : CaptureFresh live gate capture)
    (hlive : StagingLive live gate capture) (hinput : ∀ x ∈ input, live x)
    (config : ProcessorConfig) (offset : Nat) :
    let round := capture.copyRound config gate offset input
    CaptureFresh live gate round.1 ∧ StagingLive live gate round.1 ∧
      ∀ x ∈ round.2.2, live x := by
  obtain ⟨hepoch, hstaging, hqueue, houtgoing, hold⟩ := openStaging_live hlive offset
  simp only [Capture.copyRound]
  generalize capture.openStaging gate offset = opened at hepoch hstaging hqueue houtgoing
  generalize hcopy : min input.length (frameSamples - opened.staging.length) = copy
  have hcopied : ∀ x ∈ opened.staging ++ input.take copy, live x := by
    intro x hx
    rcases List.mem_append.mp hx with hx | hx
    · exact hold x (hstaging ▸ hx)
    · exact hinput x (List.mem_of_mem_take hx)
  have hlive' : StagingLive live gate { opened with staging := opened.staging ++ input.take copy } :=
    fun _ => ⟨hepoch, hcopied⟩
  have hfresh' : CaptureFresh live gate
      { opened with staging := opened.staging ++ input.take copy } :=
    ⟨fun _ => ⟨hepoch.le, fun _ => hcopied⟩, fun frame hframe => h.queue frame (hqueue ▸ hframe),
      fun frame hframe => h.outgoing frame (houtgoing ▸ hframe)⟩
  have hrest : ∀ x ∈ input.drop copy, live x := fun x hx => hinput x (List.mem_of_mem_drop hx)
  split_ifs with hfull
  · have hne : opened.staging ++ input.take copy ≠ [] := by
      intro hnil
      simp [hnil, frameSamples] at hfull
    obtain ⟨hpushed, hstaged⟩ := pushFrame_fresh hfresh' hlive' hne config
    exact ⟨hpushed, hstaged, hrest⟩
  · exact ⟨hfresh', hlive', hrest⟩

theorem Capture.copyLoop_fresh {live : α → Prop} {gate : Gate} (config : ProcessorConfig)
    (fuel offset : Nat) {capture : Capture α} {input : List α}
    (h : CaptureFresh live gate capture) (hlive : StagingLive live gate capture)
    (hinput : ∀ x ∈ input, live x) :
    CaptureFresh live gate (capture.copyLoop config gate fuel offset input) := by
  induction fuel generalizing capture offset input with
  | zero => exact h
  | succ fuel ih =>
      unfold Capture.copyLoop
      split_ifs
      · exact h
      · obtain ⟨hfresh, hstaged, hrest⟩ := copyRound_fresh h hlive hinput config offset
        exact ih _ hfresh hstaged hrest

/-- **Capture keeps freshness.**  Samples that are live when the microphone is
on are the only ones the callback keeps. -/
theorem pushCaptured_fresh {live : α → Prop} {processor : Processor α} {input : List α}
    (h : CaptureFresh live processor.gate processor.capture)
    (hinput : processor.gate.running = true → processor.gate.captureActive = true →
      ∀ x ∈ input, live x) :
    CaptureFresh live processor.gate (processor.pushCaptured input).capture := by
  unfold Processor.pushCaptured
  dsimp only
  split_ifs with hempty hoff hstale
  · exact h
  · exact ⟨fun hne => absurd rfl hne, h.queue, h.outgoing⟩
  all_goals
    simp only [not_or, Bool.not_eq_false] at hoff
    have hlive := hinput hoff.1 hoff.2.2
  · have hreset : CaptureFresh live processor.gate
        { processor.capture with staging := [], discontinuity := true } :=
      ⟨fun hne => absurd rfl hne, h.queue, h.outgoing⟩
    have hcopied := Capture.copyLoop_fresh processor.config input.length 0 hreset
      (fun hne => absurd rfl hne) hlive
    exact ⟨hcopied.staging, hcopied.queue, hcopied.outgoing⟩
  · have hstaged : StagingLive live processor.gate processor.capture := by
      intro hne
      have hepoch : processor.capture.stagingepoch = processor.gate.captureepoch := by
        by_contra hne'
        exact hstale ⟨hne, .inr hne'⟩
      exact ⟨hepoch, (h.staging hne).2 hepoch⟩
    have hcopied := Capture.copyLoop_fresh processor.config input.length 0 h hstaged hlive
    exact ⟨hcopied.staging, hcopied.queue, hcopied.outgoing⟩

/-! ## The worker -/

/-- The outgoing queue only ever flags the frames it was given. -/
theorem mem_pushOutgoing {config : ProcessorConfig} {outgoing : List (EncodedFrame α)}
    {encoded frame : EncodedFrame α} (h : frame ∈ pushOutgoing config outgoing encoded) :
    ∃ source ∈ outgoing ++ [encoded], frame.captureepoch = source.captureepoch ∧
      frame.pcm = source.pcm := by
  unfold pushOutgoing at h
  split_ifs at h with hfull
  · match outgoing with
    | [] =>
        obtain rfl := List.mem_singleton.mp h
        exact ⟨encoded, by simp, rfl, rfl⟩
    | [first] =>
        obtain rfl := List.mem_singleton.mp h
        exact ⟨encoded, by simp, rfl, rfl⟩
    | first :: front :: rest =>
        simp only [List.drop_succ_cons, List.drop_zero, List.cons_append, List.mem_cons] at h
        rcases h with rfl | h
        · exact ⟨front, by simp, rfl, rfl⟩
        · exact ⟨frame, by simp at h ⊢; tauto, rfl, rfl⟩
  · exact ⟨frame, h, rfl, rfl⟩

theorem encodeFrame_fresh {live : α → Prop} {gate : Gate} {capture : Capture α}
    {frame : PcmFrame α} (h : CaptureFresh live gate capture)
    (hframe : FreshAt live gate.captureepoch frame.captureepoch frame.samples)
    (config : ProcessorConfig) (sequence : UInt32) (firstpacket : Bool)
    (payload : Option (List UInt8)) :
    CaptureFresh live gate
      (encodeFrame config gate capture frame sequence firstpacket payload) := by
  unfold encodeFrame
  cases payload with
  | none => split_ifs <;> exact h
  | some payload =>
      dsimp only
      split_ifs
      · exact h
      · exact h
      · refine ⟨h.staging, h.queue, fun out hout => ?_⟩
        obtain ⟨source, hsource, hepoch, hpcm⟩ := mem_pushOutgoing hout
        rw [hepoch, hpcm]
        rcases List.mem_append.mp hsource with hold | hnew
        · exact h.outgoing source hold
        · obtain rfl := List.mem_singleton.mp hnew
          exact hframe

theorem drainCapture_fresh {live : α → Prop} {gate : Gate} (config : ProcessorConfig)
    (encode : Nat → Option (List UInt8)) (k : Nat) (loop : WorkerLoop)
    {frames : List (PcmFrame α)} {capture : Capture α} (h : CaptureFresh live gate capture)
    (hframes : ∀ frame ∈ frames,
      FreshAt live gate.captureepoch frame.captureepoch frame.samples) :
    CaptureFresh live gate (drainCapture config gate encode k frames capture loop).1 := by
  induction frames generalizing k capture loop with
  | nil => exact h
  | cons frame frames ih =>
      have hrest := fun f hf => hframes f (List.mem_cons_of_mem _ hf)
      unfold drainCapture
      split_ifs
      · exact ih _ _ h hrest
      · exact ih _ _ (encodeFrame_fresh h (hframes frame List.mem_cons_self) ..) hrest

theorem observeSession_gate (processor : Processor α) (loop : WorkerLoop)
    (input : Iteration) :
    (processor.observeSession loop input).1.gate = processor.gate := by
  unfold Processor.observeSession
  split_ifs <;> rfl

theorem observeSession_within (processor : Processor α) (loop : WorkerLoop)
    (input : Iteration) :
    (processor.observeSession loop input).1.capture.Within processor.capture := by
  unfold Processor.observeSession
  split_ifs
  · exact ⟨.inr ⟨rfl, rfl⟩, fun _ h => absurd h List.not_mem_nil, fun _ h => h⟩
  · exact Capture.Within.refl _

theorem observeCapture_gate (processor : Processor α) (loop : WorkerLoop) :
    (processor.observeCapture loop).1.gate = processor.gate := by
  unfold Processor.observeCapture
  dsimp only
  split_ifs <;> rfl

theorem observeCapture_within (processor : Processor α) (loop : WorkerLoop) :
    (processor.observeCapture loop).1.capture.Within processor.capture := by
  unfold Processor.observeCapture
  dsimp only
  split_ifs
  · exact ⟨.inr ⟨rfl, rfl⟩, fun _ h => absurd h List.not_mem_nil, fun _ h => h⟩
  · exact ⟨.inr ⟨rfl, rfl⟩, fun _ h => absurd h List.not_mem_nil, fun _ h => h⟩
  · exact Capture.Within.refl _

theorem encodeCaptured_gate (processor : Processor α) (loop : WorkerLoop)
    (input : Iteration) :
    (processor.encodeCaptured loop input).1.gate = processor.gate := by
  unfold Processor.encodeCaptured
  split_ifs <;> rfl

theorem encodeCaptured_fresh {live : α → Prop} {processor : Processor α}
    (h : CaptureFresh live processor.gate processor.capture) (loop : WorkerLoop)
    (input : Iteration) :
    CaptureFresh live processor.gate (processor.encodeCaptured loop input).1.capture := by
  unfold Processor.encodeCaptured
  split_ifs
  · have hempty : CaptureFresh live processor.gate { processor.capture with queue := [] } :=
      ⟨h.staging, fun _ hf => absurd hf List.not_mem_nil, h.outgoing⟩
    exact drainCapture_fresh processor.config input.encode 0 loop hempty h.queue
  · exact ⟨h.staging, fun _ hf => absurd hf List.not_mem_nil, h.outgoing⟩

/-- The worker reads the gates and never writes them. -/
theorem workerIteration_gate (processor : Processor α) (input : Iteration) :
    (processor.workerIteration input).gate = processor.gate := by
  unfold Processor.workerIteration
  split
  · rename_i loop _
    split_ifs
    · rfl
    · have h₁ := observeSession_gate processor loop input
      have h₂ := observeCapture_gate (processor.observeSession loop input).1
        (processor.observeSession loop input).2
      exact (encodeCaptured_gate ..).trans (h₂.trans h₁)
  · rfl

/-- **The worker keeps freshness.**  An iteration moves samples only between
stages of their epoch. -/
theorem workerIteration_fresh {live : α → Prop} {processor : Processor α}
    (h : CaptureFresh live processor.gate processor.capture) (input : Iteration) :
    CaptureFresh live processor.gate (processor.workerIteration input).capture := by
  unfold Processor.workerIteration
  split
  · rename_i loop _
    split_ifs
    · exact h
    · have hgate₁ := observeSession_gate processor loop input
      have h₁ := h.within (observeSession_within processor loop input)
      generalize processor.observeSession loop input = stage₁ at hgate₁ h₁
      obtain ⟨p₁, loop₁⟩ := stage₁
      have hgate₂ := (observeCapture_gate p₁ loop₁).trans hgate₁
      have h₂ := h₁.within (observeCapture_within p₁ loop₁)
      generalize hp₂ : p₁.observeCapture loop₁ = stage₂ at hgate₂ h₂
      obtain ⟨p₂, loop₂⟩ := stage₂
      have h₃ : CaptureFresh live (p₂.processIncoming input loop₂.observedsessionepoch).gate
          (p₂.processIncoming input loop₂.observedsessionepoch).capture := hgate₂ ▸ h₂
      have h₄ := encodeCaptured_fresh h₃ loop₂ input
      have hgate : (p₂.processIncoming input loop₂.observedsessionepoch).gate =
          processor.gate := hgate₂
      rw [hgate] at h₄
      simp only [hp₂]
      exact h₄
  · exact h

/-- The pop loop returns a current frame of the queue. -/
theorem popCurrent_spec (gate : Gate) (outgoing : List (EncodedFrame α)) :
    (∀ frame ∈ (popCurrent gate outgoing).1, frame ∈ outgoing) ∧
      ∀ frame, (popCurrent gate outgoing).2 = some frame →
        frame ∈ outgoing ∧ frame.isCurrent gate = true := by
  induction outgoing with
  | nil => simp [popCurrent]
  | cons first rest ih =>
      unfold popCurrent
      split_ifs with hcurrent
      · refine ⟨fun frame hframe => List.mem_cons_of_mem _ hframe, fun frame hframe => ?_⟩
        obtain rfl := Option.some.inj hframe
        exact ⟨List.mem_cons_self, hcurrent⟩
      · exact ⟨fun frame hframe => List.mem_cons_of_mem _ (ih.1 frame hframe),
          fun frame hframe => ⟨List.mem_cons_of_mem _ (ih.2 frame hframe).1,
            (ih.2 frame hframe).2⟩⟩

/-! ## The client -/

/-- A control on its way to a client, with the state it was sent for. -/
structure Control where
  packet : SessionPacket
  state : Option PeerState
  deriving DecidableEq

/-- The gates hold the session a control opens, or none if it closes it. -/
def Control.Sets (control : Control) (gate : Gate) : Prop :=
  if control.packet.enabled then
    gate.sessionid = control.packet.sessionid ∧
      gate.membershipgeneration = control.packet.membershipgeneration ∧
      gate.localplayerid = control.packet.playerid
  else gate.sessionid = 0 ∧ gate.membershipgeneration = 0 ∧ gate.localplayerid = 0

/-- A captured sample that remembers when it was captured, under which gates,
and under which control. -/
structure Sample where
  pcm : Int
  time : Nat
  gate : Gate
  applied : Option Control

/-- A frame returned by `popOutgoingPacket`, with the moment of the last change
before and the control in force. -/
structure Popped where
  frame : EncodedFrame Sample
  change : Nat
  applied : Option Control

/-- A client: its processor, the control that set its session (none when a
direct call did), the moment of its last change and the frames it popped. -/
structure Client where
  processor : Processor Sample
  applied : Option Control := none
  lastchange : Nat := 0
  popped : List Popped := []

/-- What can happen at a client: a public call, a capture or playback
callback, a worker step, a delivery. -/
inductive ClientCall
  | start (setupOk : Bool)
  | stop
  | setEnabled (enabled : Bool)
  | setTransmitting (transmitting : Bool)
  | setLocalMuted (muted : Bool)
  | setSession (sessionid : UInt64) (membershipgeneration : UInt32) (localplayerid : UInt64)
  | clearSession
  | handleSessionPacket (control : Control)
  | pushCaptured (input : List Int)
  | workerPrelude (now : Int)
  | workerIteration (input : Iteration)
  | popOutgoingPacket
  | popPlayback (samplecount : Nat)
  | pushIncomingPacket (packet : DownlinkPacket)
  | setSpeakerMuted (speakerid : UInt64) (muted : Bool)
  | setSpeakerVolume (speakerid : UInt64) (volume : ℚ)

namespace Client

/-- A captured sample as the client sees it at the moment `clock`. -/
def stamp (client : Client) (clock : Nat) (pcm : Int) : Sample :=
  ⟨pcm, clock, client.processor.gate, client.applied⟩

/-- The processor after a call. -/
def run (client : Client) (clock : Nat) : ClientCall → Processor Sample
  | .start setupOk => (client.processor.start setupOk).1
  | .stop => client.processor.stop
  | .setEnabled enabled => client.processor.setEnabled enabled
  | .setTransmitting transmitting => client.processor.setTransmitting transmitting
  | .setLocalMuted muted => client.processor.setLocalMuted muted
  | .setSession sessionid generation playerid =>
      client.processor.setSession sessionid generation playerid
  | .clearSession => client.processor.clearSession
  | .handleSessionPacket control => client.processor.handleSessionPacket control.packet
  | .pushCaptured input => client.processor.pushCaptured (input.map (client.stamp clock))
  | .workerPrelude now => client.processor.workerPrelude now
  | .workerIteration input => client.processor.workerIteration input
  | .popOutgoingPacket => client.processor.popOutgoingPacket.1
  | .popPlayback samplecount => (client.processor.popPlayback samplecount).1
  | .pushIncomingPacket packet => (client.processor.pushIncomingPacket packet).1
  | .setSpeakerMuted speakerid muted => (client.processor.setSpeakerMuted speakerid muted).1
  | .setSpeakerVolume speakerid volume => (client.processor.setSpeakerVolume speakerid volume).1

/-- The call changes the gates or the session: an effective setter, a start
that takes place, every stop and every session. -/
def changes (client : Client) : ClientCall → Bool
  | .start setupOk => !client.processor.gate.running && setupOk
  | .stop => true
  | .setEnabled enabled => client.processor.gate.enabled != enabled
  | .setTransmitting transmitting => client.processor.gate.transmitting != transmitting
  | .setLocalMuted muted => client.processor.gate.localmuted != muted
  | .setSession .. => true
  | .clearSession => true
  | .handleSessionPacket control => validateTeamVoiceSessionPacket control.packet == .none
  | _ => false

/-- The control in force after a call. -/
def appliedAfter (client : Client) : ClientCall → Option Control
  | .setSession .. => none
  | .clearSession => none
  | .handleSessionPacket control =>
      if validateTeamVoiceSessionPacket control.packet = .none then some control
      else client.applied
  | _ => client.applied

/-- The frames popped after a call. -/
def poppedAfter (client : Client) : ClientCall → List Popped
  | .popOutgoingPacket =>
      match client.processor.popOutgoingPacket.2 with
      | some frame => ⟨frame, client.lastchange, client.applied⟩ :: client.popped
      | none => client.popped
  | _ => client.popped

/-- The client after a call at the moment `clock`. -/
def perform (client : Client) (clock : Nat) (call : ClientCall) : Client where
  processor := client.run clock call
  applied := client.appliedAfter call
  lastchange := if client.changes call then clock else client.lastchange
  popped := client.poppedAfter call

/-- The sample was captured after the last change, under the present gates and
control. -/
def Live (client : Client) (x : Sample) : Prop :=
  client.lastchange < x.time ∧ x.gate = client.processor.gate ∧ x.applied = client.applied

end Client

/-- What is promised of a sample of a popped frame: it was captured after the
last change, while the client was running, enabled, transmitting and unmuted,
in the session and generation the frame names. -/
structure Popped.Promise (popped : Popped) (x : Sample) : Prop where
  time : popped.change < x.time
  running : x.gate.running = true
  enabled : x.gate.enabled = true
  transmitting : x.gate.transmitting = true
  unmuted : x.gate.localmuted = false
  session : x.gate.sessionid = popped.frame.sessionid
  generation : x.gate.membershipgeneration = popped.frame.membershipgeneration
  applied : x.applied = popped.applied
  control : ∀ control, x.applied = some control → control.Sets x.gate

/-- The invariant of a client at the moment `clock`. -/
structure Client.Inv (clock : Nat) (client : Client) : Prop where
  past : client.lastchange < clock
  fresh : CaptureFresh client.Live client.processor.gate client.processor.capture
  control : ∀ control, client.applied = some control → control.Sets client.processor.gate
  popped : ∀ popped ∈ client.popped, ∀ x ∈ popped.frame.pcm, popped.Promise x

/-! ## Calls that open a new capture epoch -/

/-- The call opened a new capture epoch and kept nothing but what was there. -/
def Outdates (processor processor' : Processor α) : Prop :=
  processor.gate.captureepoch < processor'.gate.captureepoch ∧
    processor'.capture.Within processor.capture

theorem stop_outdates (processor : Processor α) : Outdates processor processor.stop :=
  ⟨Nat.lt_succ_self _, .inr ⟨rfl, rfl⟩, fun _ h => absurd h List.not_mem_nil,
    fun _ h => absurd h List.not_mem_nil⟩

theorem setSession_outdates (processor : Processor α) (sessionid : UInt64)
    (generation : UInt32) (playerid : UInt64) :
    Outdates processor (processor.setSession sessionid generation playerid) :=
  ⟨Nat.lt_succ_self _, .inr ⟨rfl, rfl⟩, fun _ h => h, fun _ h => absurd h List.not_mem_nil⟩

theorem setEnabled_cases (processor : Processor α) (enabled : Bool) :
    processor.gate.enabled = enabled ∧ processor.setEnabled enabled = processor ∨
      Outdates processor (processor.setEnabled enabled) := by
  by_cases h : processor.gate.enabled = enabled
  · exact .inl ⟨h, if_pos h⟩
  · simp only [Processor.setEnabled, if_neg h]
    exact .inr ⟨Nat.lt_succ_self _, .inr ⟨rfl, rfl⟩, fun _ h => h,
      fun _ h => absurd h List.not_mem_nil⟩

theorem setTransmitting_cases (processor : Processor α) (transmitting : Bool) :
    processor.gate.transmitting = transmitting ∧
        processor.setTransmitting transmitting = processor ∨
      Outdates processor (processor.setTransmitting transmitting) := by
  by_cases h : processor.gate.transmitting = transmitting
  · exact .inl ⟨h, if_pos h⟩
  · simp only [Processor.setTransmitting, if_neg h]
    exact .inr ⟨Nat.lt_succ_self _, .inr ⟨rfl, rfl⟩, fun _ h => h,
      fun _ h => absurd h List.not_mem_nil⟩

theorem setLocalMuted_cases (processor : Processor α) (muted : Bool) :
    processor.gate.localmuted = muted ∧ processor.setLocalMuted muted = processor ∨
      Outdates processor (processor.setLocalMuted muted) := by
  by_cases h : processor.gate.localmuted = muted
  · exact .inl ⟨h, if_pos h⟩
  · simp only [Processor.setLocalMuted, if_neg h]
    exact .inr ⟨Nat.lt_succ_self _, .inr ⟨rfl, rfl⟩, fun _ h => h,
      fun _ h => absurd h List.not_mem_nil⟩

theorem Capture.Within.trans {a b c : Capture α} (hab : a.Within b) (hbc : b.Within c) :
    a.Within c where
  staging := by
    rcases hab.staging with hnil | ⟨hstaging, hepoch⟩
    · exact .inl hnil
    · rw [hstaging, hepoch]
      exact hbc.staging
  queue frame h := hbc.queue frame (hab.queue frame h)
  outgoing frame h := hbc.outgoing frame (hab.outgoing frame h)

theorem Outdates.trans {p q r : Processor α} (hpq : Outdates p q) (hqr : Outdates q r) :
    Outdates p r :=
  ⟨hpq.1.trans hqr.1, hqr.2.trans hpq.2⟩

theorem handleSessionPacket_cases (processor : Processor α) (packet : SessionPacket) :
    validateTeamVoiceSessionPacket packet ≠ .none ∧
        processor.handleSessionPacket packet = processor ∨
      validateTeamVoiceSessionPacket packet = .none ∧
        Outdates processor (processor.handleSessionPacket packet) := by
  unfold Processor.handleSessionPacket
  split_ifs with hmalformed hdisabled
  · exact .inl ⟨hmalformed, rfl⟩
  · refine .inr ⟨not_not.mp hmalformed, ?_⟩
    rcases setTransmitting_cases processor false with ⟨-, hsame⟩ | hoff
    · rw [hsame]
      exact setSession_outdates processor 0 0 0
    · exact hoff.trans (setSession_outdates _ 0 0 0)
  · exact .inr ⟨not_not.mp hmalformed, setSession_outdates ..⟩

/-- A call leaves the gates, the control and the moment of change alone and
keeps freshness. -/
def Client.Keeps (client : Client) (clock : Nat) (call : ClientCall) : Prop :=
  (client.run clock call).gate = client.processor.gate ∧
    client.appliedAfter call = client.applied ∧ client.changes call = false ∧
    CaptureFresh client.Live client.processor.gate (client.run clock call).capture

/-- **Two kinds of calls.**  A call keeps the epoch and freshness, or opens a
new capture epoch. -/
theorem Client.run_cases {client : Client} {clock : Nat} (hpast : client.lastchange < clock)
    (hfresh : CaptureFresh client.Live client.processor.gate client.processor.capture)
    (call : ClientCall) :
    client.Keeps clock call ∨ Outdates client.processor (client.run clock call) := by
  cases call with
  | start setupOk =>
      unfold Keeps run Processor.start
      dsimp only
      split_ifs with hrunning hsetup
      · exact .inl ⟨rfl, rfl, by simp [changes, hrunning], hfresh⟩
      · exact .inl ⟨rfl, rfl, by simp [changes, hsetup], hfresh⟩
      · exact .inr ⟨Nat.lt_succ_self _, Capture.Within.refl _⟩
  | stop => exact .inr (stop_outdates _)
  | setEnabled enabled =>
      rcases setEnabled_cases client.processor enabled with ⟨heq, hsame⟩ | hbump
      · exact .inl ⟨congrArg _ hsame, rfl, by simp [changes, heq],
          by simpa [run, hsame] using hfresh⟩
      · exact .inr hbump
  | setTransmitting transmitting =>
      rcases setTransmitting_cases client.processor transmitting with ⟨heq, hsame⟩ | hbump
      · exact .inl ⟨congrArg _ hsame, rfl, by simp [changes, heq],
          by simpa [run, hsame] using hfresh⟩
      · exact .inr hbump
  | setLocalMuted muted =>
      rcases setLocalMuted_cases client.processor muted with ⟨heq, hsame⟩ | hbump
      · exact .inl ⟨congrArg _ hsame, rfl, by simp [changes, heq],
          by simpa [run, hsame] using hfresh⟩
      · exact .inr hbump
  | setSession sessionid generation playerid => exact .inr (setSession_outdates ..)
  | clearSession => exact .inr (setSession_outdates ..)
  | handleSessionPacket control =>
      rcases handleSessionPacket_cases client.processor control.packet with
        ⟨hmalformed, hsame⟩ | ⟨-, hbump⟩
      · exact .inl ⟨congrArg _ hsame, if_neg hmalformed, by simp [changes, hmalformed],
          by simpa [run, hsame] using hfresh⟩
      · exact .inr hbump
  | pushCaptured input =>
      refine .inl ⟨?_, rfl, rfl, pushCaptured_fresh hfresh fun _ _ x hx => ?_⟩
      · simp only [run, Processor.pushCaptured]
        split_ifs <;> rfl
      · obtain ⟨pcm, -, rfl⟩ := List.mem_map.mp hx
        exact ⟨hpast, rfl, rfl⟩
  | workerPrelude now =>
      simp only [Keeps, run, Processor.workerPrelude]
      split
      · exact .inl ⟨rfl, rfl, rfl, hfresh.staging, hfresh.queue, hfresh.outgoing⟩
      · exact .inl ⟨rfl, rfl, rfl, hfresh⟩
  | workerIteration input =>
      exact .inl ⟨workerIteration_gate _ input, rfl, rfl, workerIteration_fresh hfresh input⟩
  | popOutgoingPacket =>
      simp only [Keeps, run, Processor.popOutgoingPacket]
      split_ifs
      · exact .inl ⟨rfl, rfl, rfl, hfresh⟩
      · have hsub := (popCurrent_spec client.processor.gate
          client.processor.capture.outgoing).1
        exact .inl ⟨rfl, rfl, rfl, hfresh.staging, hfresh.queue,
          fun frame hframe => hfresh.outgoing frame (hsub frame hframe)⟩
  | popPlayback samplecount =>
      unfold Keeps run Processor.popPlayback
      dsimp only
      split_ifs <;> exact .inl ⟨rfl, rfl, rfl, hfresh⟩
  | pushIncomingPacket packet =>
      unfold Keeps run Processor.pushIncomingPacket
      dsimp only
      split_ifs <;> exact .inl ⟨rfl, rfl, rfl, hfresh⟩
  | setSpeakerMuted speakerid muted => exact .inl ⟨rfl, rfl, rfl, hfresh⟩
  | setSpeakerVolume speakerid volume => exact .inl ⟨rfl, rfl, rfl, hfresh⟩

/-- Two gates hold the same session. -/
def Gate.SameSession (gate gate' : Gate) : Prop :=
  gate'.sessionid = gate.sessionid ∧
    gate'.membershipgeneration = gate.membershipgeneration ∧
    gate'.localplayerid = gate.localplayerid

theorem Control.Sets.of_sameSession {control : Control} {gate gate' : Gate}
    (h : control.Sets gate) (hsame : gate.SameSession gate') : control.Sets gate' := by
  unfold Control.Sets at *
  rwa [hsame.1, hsame.2.1, hsame.2.2]

/-- Applying a control sets its session. -/
theorem handleSessionPacket_sets (processor : Processor α) (control : Control)
    (hvalid : validateTeamVoiceSessionPacket control.packet = .none) :
    control.Sets (processor.handleSessionPacket control.packet).gate := by
  unfold Processor.handleSessionPacket Control.Sets
  rw [if_neg (not_not.mpr hvalid)]
  cases control.packet.enabled with
  | true => exact ⟨rfl, rfl, rfl⟩
  | false => exact ⟨rfl, rfl, rfl⟩

/-- A call either sets the session or leaves it, and the control, alone. -/
theorem Client.run_session (client : Client) (clock : Nat) (call : ClientCall) :
    (client.appliedAfter call = client.applied ∧
      client.processor.gate.SameSession (client.run clock call).gate) ∨
    (client.appliedAfter call = none ∧
      ((∃ sessionid generation playerid, call = .setSession sessionid generation playerid) ∨
        call = .clearSession)) ∨
    ∃ control, client.appliedAfter call = some control ∧
      control.Sets (client.run clock call).gate := by
  cases call with
  | start setupOk =>
      unfold run Processor.start
      dsimp only
      split_ifs <;> exact .inl ⟨rfl, rfl, rfl, rfl⟩
  | stop => exact .inl ⟨rfl, rfl, rfl, rfl⟩
  | setEnabled enabled =>
      unfold run Processor.setEnabled
      dsimp only
      split_ifs <;> exact .inl ⟨rfl, rfl, rfl, rfl⟩
  | setTransmitting transmitting =>
      unfold run Processor.setTransmitting
      dsimp only
      split_ifs <;> exact .inl ⟨rfl, rfl, rfl, rfl⟩
  | setLocalMuted muted =>
      unfold run Processor.setLocalMuted
      dsimp only
      split_ifs <;> exact .inl ⟨rfl, rfl, rfl, rfl⟩
  | setSession sessionid generation playerid =>
      exact .inr (.inl ⟨rfl, .inl ⟨sessionid, generation, playerid, rfl⟩⟩)
  | clearSession => exact .inr (.inl ⟨rfl, .inr rfl⟩)
  | handleSessionPacket control =>
      by_cases hvalid : validateTeamVoiceSessionPacket control.packet = .none
      · exact .inr (.inr ⟨control, if_pos hvalid, handleSessionPacket_sets _ control hvalid⟩)
      · refine .inl ⟨if_neg hvalid, ?_⟩
        unfold run Processor.handleSessionPacket
        dsimp only
        rw [if_pos hvalid]
        exact ⟨rfl, rfl, rfl⟩
  | pushCaptured input =>
      unfold run Processor.pushCaptured
      dsimp only
      split_ifs <;> exact .inl ⟨rfl, rfl, rfl, rfl⟩
  | workerPrelude now =>
      unfold run Processor.workerPrelude
      dsimp only
      split <;> exact .inl ⟨rfl, rfl, rfl, rfl⟩
  | workerIteration input =>
      have hgate : (client.processor.workerIteration input).gate = client.processor.gate :=
        workerIteration_gate client.processor input
      exact .inl ⟨rfl, by rw [run, hgate]; exact ⟨rfl, rfl, rfl⟩⟩
  | popOutgoingPacket =>
      unfold run Processor.popOutgoingPacket
      dsimp only
      split_ifs <;> exact .inl ⟨rfl, rfl, rfl, rfl⟩
  | popPlayback samplecount =>
      unfold run Processor.popPlayback
      dsimp only
      split_ifs <;> exact .inl ⟨rfl, rfl, rfl, rfl⟩
  | pushIncomingPacket packet =>
      unfold run Processor.pushIncomingPacket
      dsimp only
      split_ifs <;> exact .inl ⟨rfl, rfl, rfl, rfl⟩
  | setSpeakerMuted speakerid muted => exact .inl ⟨rfl, rfl, rfl, rfl⟩
  | setSpeakerVolume speakerid volume => exact .inl ⟨rfl, rfl, rfl, rfl⟩

/-- The control in force after a call is the one the gates hold. -/
theorem Client.run_sets {client : Client} {clock : Nat}
    (h : ∀ control, client.applied = some control → control.Sets client.processor.gate)
    {call : ClientCall} {control : Control}
    (happlied : client.appliedAfter call = some control) :
    control.Sets (client.run clock call).gate := by
  rcases client.run_session clock call with
    ⟨hsame, hsession⟩ | ⟨hnone, -⟩ | ⟨control', hset, hsets⟩
  · exact (h control (hsame ▸ happlied)).of_sameSession hsession
  · simp [hnone] at happlied
  · obtain rfl := Option.some.inj (happlied.symm.trans hset)
    exact hsets

/-- **What is popped keeps its promise.** -/
theorem Client.popped_promise {client : Client} {clock : Nat} (h : client.Inv clock)
    {frame : EncodedFrame Sample}
    (hpop : client.processor.popOutgoingPacket.2 = some frame) (x : Sample)
    (hx : x ∈ frame.pcm) :
    Popped.Promise ⟨frame, client.lastchange, client.applied⟩ x := by
  unfold Processor.popOutgoingPacket at hpop
  split_ifs at hpop with hoff
  obtain ⟨hmem, hcurrent⟩ := (popCurrent_spec _ _).2 frame hpop
  simp only [not_or, Bool.not_eq_false] at hoff
  simp only [EncodedFrame.isCurrent, decide_eq_true_eq] at hcurrent
  obtain ⟨-, hepoch, hsession, hgeneration⟩ := hcurrent
  obtain ⟨htime, hgate, happlied⟩ := (h.fresh.outgoing frame hmem).2 hepoch x hx
  have hactive := hoff.2
  simp only [Gate.captureActive, Bool.and_eq_true, Bool.not_eq_true'] at hactive
  exact
    { time := htime
      running := by rw [hgate]; exact hoff.1
      enabled := by rw [hgate]; exact hactive.1.1.1.1
      transmitting := by rw [hgate]; exact hactive.1.1.1.2
      unmuted := by rw [hgate]; exact hactive.1.1.2
      session := by rw [hgate]; exact hsession.symm
      generation := by rw [hgate]; exact hgeneration.symm
      applied := happlied
      control := fun control hcontrol => by
        rw [hgate]
        exact h.control control (happlied ▸ hcontrol) }

/-- **Step lemma.**  Every call keeps the invariant of the client. -/
theorem Client.perform_inv {clock : Nat} {client : Client} (h : client.Inv clock)
    (call : ClientCall) : (client.perform clock call).Inv (clock + 1) where
  past := by
    have := h.past
    simp only [perform]
    split_ifs <;> omega
  fresh := by
    rcases run_cases h.past h.fresh call with ⟨hgate, happlied, hchanges, hfresh⟩ | hbump
    · have hlive : (client.perform clock call).Live = client.Live := by
        funext x
        simp [Live, perform, hgate, happlied, hchanges]
      rw [hlive]
      exact ⟨fun hne => hgate ▸ hfresh.staging hne, fun f hf => hgate ▸ hfresh.queue f hf,
        fun f hf => hgate ▸ hfresh.outgoing f hf⟩
    · exact (h.fresh.within hbump.2).bump hbump.1
  control _ happlied := run_sets h.control happlied
  popped popped hpopped x hx := by
    by_cases hold : popped ∈ client.popped
    · exact h.popped popped hold x hx
    · cases call with
      | popOutgoingPacket =>
          simp only [perform, poppedAfter] at hpopped
          split at hpopped
          · rename_i frame hframe
            obtain rfl : popped = ⟨frame, client.lastchange, client.applied⟩ :=
              (List.mem_cons.mp hpopped).resolve_right hold
            exact popped_promise h hframe x hx
          · exact absurd hpopped hold
      | _ => exact absurd hpopped hold

/-- The invariant outlives the passing of time. -/
theorem Client.Inv.mono {clock clock' : Nat} {client : Client} (h : client.Inv clock)
    (hle : clock ≤ clock') : client.Inv clock' :=
  ⟨h.past.trans_le hle, h.fresh, h.control, h.popped⟩

/-- A new client satisfies the invariant. -/
theorem Client.create_inv (config : ProcessorConfig) :
    Client.Inv 1 { processor := Processor.create config } where
  past := Nat.one_pos
  fresh := ⟨fun hne => absurd rfl hne, fun _ h => absurd h List.not_mem_nil,
    fun _ h => absurd h List.not_mem_nil⟩
  control _ h := by simp at h
  popped _ h := absurd h List.not_mem_nil

/-- A control in force was in force before, or has just been delivered. -/
theorem Client.appliedAfter_some {client : Client} {call : ClientCall} {control : Control}
    (h : client.appliedAfter call = some control) :
    client.applied = some control ∨ call = .handleSessionPacket control := by
  cases call with
  | handleSessionPacket control' =>
      simp only [appliedAfter] at h
      split_ifs at h
      · exact .inr (by rw [Option.some.inj h])
      · exact .inl h
  | setSession => simp [appliedAfter] at h
  | clearSession => simp [appliedAfter] at h
  | _ => exact .inl h

/-- A popped frame was popped before, or now, under the control in force. -/
theorem Client.mem_poppedAfter {client : Client} {call : ClientCall} {popped : Popped}
    (h : popped ∈ client.poppedAfter call) :
    popped ∈ client.popped ∨ popped.applied = client.applied := by
  cases call with
  | popOutgoingPacket =>
      simp only [poppedAfter] at h
      split at h
      · rcases List.mem_cons.mp h with rfl | hold
        · exact .inr rfl
        · exact .inl hold
      · exact .inl h
  | _ => exact .inl h

/-- What was popped stays popped. -/
theorem Client.popped_subset (client : Client) (call : ClientCall) :
    client.popped ⊆ client.poppedAfter call := by
  cases call with
  | popOutgoingPacket =>
      simp only [poppedAfter]
      split
      · exact List.subset_cons_self _ _
      · exact List.Subset.refl _
  | _ => exact List.Subset.refl _

end Voice
