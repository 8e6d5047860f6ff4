import GipMultiplayer.VoiceClient
import GipMultiplayer.VoicePlaybackOrder

/-!
# The session barrier on the receive side

A downlink passes through the incoming queue, a jitter buffer and a decoder
into the playback ring.  `setSession`, `clearSession`, an effective `setEnabled`
and `stop` each cut this path: the incoming queue is cleared at once, the
speakers by the worker, which notices the new session epoch before it mixes
again, and the ring by the device, which finds a clear request.

A listener is a client that also writes down where its samples come from: every
accepted downlink with the moment of its acceptance, those that the speakers'
records have been offered, and for every sample of the ring those of the
speakers it was mixed from.

* `Listener.step` — one call, with what it moves;
* `Listener.Fresh` — a downlink accepted after the last barrier;
* `Listener.perform_effect` — what a call does on the way of a downlink;
* `Listener.Inv`, `Listener.step_inv` — what is on its way has a property;
* `Listener.Inv.cut` — and behind a barrier any property;
* `Listener.playback_barrier` — the law in every run.
-/

namespace Voice

/-! ## The listener -/

/-- A downlink that `pushIncomingPacket` accepted, the moment of the call and
the session epoch of that moment. -/
structure Accepted where
  packet : DownlinkPacket
  time : Nat
  epoch : Nat

/-- The frame that enters the incoming queue. -/
def Accepted.frame (a : Accepted) : RemoteFrame :=
  { flags := a.packet.flags
    sessionepoch := a.epoch
    speakerid := a.packet.speakerid
    speakergeneration := a.packet.speakergeneration
    streamgeneration := a.packet.streamgeneration
    sequence := a.packet.sequence
    sampleposition := a.packet.sampleposition
    payload := a.packet.payload }

/-- A client and where its samples come from.  `barrier` is the moment of the
last call that cut the receive side and `inForce` the session and generation it
left; `incoming` runs beside the incoming queue, `admitted` has what the records
of the present speakers have been offered, and `sources` runs beside the ring. -/
structure Listener where
  client : Client
  clock : Nat := 1
  barrier : Nat := 0
  inForce : UInt64 × UInt32 := (0, 0)
  incoming : List Accepted := []
  admitted : List Accepted := []
  sources : List (List Accepted) := []

/-- The downlinks of speakers that have a record. -/
def present (speakers : Speakers) (admitted : List Accepted) : List Accepted :=
  admitted.filter fun a => a.packet.speakerid ∈ speakers

/-- The downlinks of the speakers in a list of decode calls. -/
def calledFor (calls : List (UInt64 × Decoding)) (admitted : List Accepted) : List Accepted :=
  admitted.filter fun a => calls.any (·.1 == a.packet.speakerid)

/-- **A barrier**: a session, an effective `setEnabled`, or a stop. -/
def ClientCall.isBarrier (gate : Gate) : ClientCall → Bool
  | .stop | .setSession .. | .clearSession => true
  | .setEnabled enabled => gate.enabled != enabled
  | .handleSessionPacket control => validateTeamVoiceSessionPacket control.packet == .none
  | _ => false

namespace Listener

abbrev processor (l : Listener) : Processor Sample := l.client.processor

/-- The downlinks that `processIncoming` hands on. -/
def taken (l : Listener) (observedsessionepoch : Nat) : List Accepted :=
  l.incoming.filter fun a =>
    a.epoch = observedsessionepoch ∧ a.epoch = l.processor.gate.sessionepoch ∧
      l.processor.gate.enabled

/-- Each sample that a mix adds to the ring comes from the downlinks of the
speakers that were decoded. -/
def mixSources (config : ProcessorConfig) (input : Iteration) (playback : Playback)
    (admitted : List Accepted) (sources : List (List Accepted)) : List (List Accepted) :=
  let (mixed, calls) := mixOneFrame config input.now input.decode playback
  sources ++ List.replicate (mixed.ring.length - playback.ring.length) (calledFor calls admitted)

/-- A worker iteration, stage by stage as in `Processor.workerIteration`. -/
def workerIteration (l : Listener) (input : Iteration) : Listener :=
  match l.processor.worker with
  | .looping loop =>
      if l.processor.gate.running = false ∨ l.processor.gate.sessionepoch % 2 ≠ 0 then l
      else
        let (processor, loop) := l.processor.observeSession loop input
        let admitted := present processor.playback.speakers l.admitted
        let (processor, loop) := processor.observeCapture loop
        let processor := processor.processIncoming input loop.observedsessionepoch
        let admitted := present processor.playback.speakers
          (admitted ++ l.taken loop.observedsessionepoch)
        let (processor, loop) := processor.encodeCaptured loop input
        { l with
          incoming := []
          admitted := admitted
          sources :=
            if loop.nextmix ≤ input.now then
              mixSources processor.config input processor.playback admitted l.sources
            else l.sources }
  | _ => l

/-- An accepted downlink enters the incoming queue; a full queue gives up its
oldest. -/
def accept (l : Listener) (packet : DownlinkPacket) : Listener :=
  if (l.processor.pushIncomingPacket packet).2 then
    let incoming :=
      if l.processor.config.incomingpackets ≤ l.incoming.length then l.incoming.drop 1
      else l.incoming
    { l with incoming := incoming ++ [⟨packet, l.clock, l.processor.gate.sessionepoch⟩] }
  else l

/-- What is behind the samples of the ring when the device reads. -/
def readable (l : Listener) : List (List Accepted) :=
  if l.processor.playback.playbackclearrequested then [] else l.sources

/-- The sources of the ring samples that `popPlayback` returns. -/
def popSources (l : Listener) (samplecount : Nat) : List (List Accepted) :=
  l.readable.take samplecount

/-- What a call moves. -/
def moves (l : Listener) : ClientCall → Listener
  | .pushIncomingPacket packet => l.accept packet
  | .workerIteration input => l.workerIteration input
  | .popPlayback samplecount =>
      if samplecount = 0 then l else { l with sources := l.readable.drop samplecount }
  | call => if call.isBarrier l.processor.gate then { l with incoming := [] } else l

/-- The listener after a call. -/
def perform (l : Listener) (call : ClientCall) : Listener :=
  let client := l.client.perform l.clock call
  let moved := l.moves call
  let cut := call.isBarrier l.processor.gate
  { moved with
    client := client
    clock := l.clock + 1
    barrier := if cut then l.clock else l.barrier
    inForce :=
      if cut then
        (client.processor.gate.sessionid, client.processor.gate.membershipgeneration)
      else l.inForce
    admitted := present client.processor.playback.speakers moved.admitted }

/-- Every call is possible at any time. -/
def step (l : Listener) (call : ClientCall) : Option Listener :=
  some (l.perform call)

/-- A new client. -/
def start (config : ProcessorConfig) : Listener :=
  { client := { processor := Processor.create config } }

/-! ## The law -/

/-- **The downlink was accepted after the last barrier**, and carries the
session and the generation in force since. -/
structure Fresh (l : Listener) (a : Accepted) : Prop where
  time : l.barrier < a.time
  session : a.packet.sessionid = l.inForce.1
  generation : a.packet.recipientgeneration = l.inForce.2

end Listener

/-! ## The stages of a worker iteration -/

variable {α : Type} {processor : Processor α} {loop : WorkerLoop} {input : Iteration}

/-- One playback holds the ring and the incoming queue of another, and asks for
a clear if the other does. -/
structure Playback.Keeps (playback playback' : Playback) : Prop where
  ring : playback'.ring = playback.ring
  incoming : playback'.incoming = playback.incoming
  cleared : playback.playbackclearrequested = true → playback'.playbackclearrequested = true

/-- After its first stage the worker has observed the session epoch; it has
cleared its speakers unless it had observed it before. -/
theorem observeSession_playback :
    (processor.observeSession loop input).2.observedsessionepoch = processor.gate.sessionepoch ∧
      (processor.observeSession loop input).1.gate = processor.gate ∧
      processor.playback.Keeps (processor.observeSession loop input).1.playback ∧
      ((processor.observeSession loop input).1.playback.speakers = ∅ ∨
        ((processor.observeSession loop input).1.playback.speakers = processor.playback.speakers ∧
          loop.observedsessionepoch = processor.gate.sessionepoch)) := by
  unfold Processor.observeSession
  split_ifs with hnew
  · exact ⟨rfl, rfl, ⟨rfl, rfl, fun _ => rfl⟩, .inl rfl⟩
  · have hold := (not_not.mp hnew).symm
    exact ⟨hold, rfl, ⟨rfl, rfl, id⟩, .inr ⟨rfl, hold⟩⟩

theorem observeCapture_playback :
    (processor.observeCapture loop).1.playback = processor.playback ∧
      (processor.observeCapture loop).1.gate = processor.gate ∧
      (processor.observeCapture loop).2.observedsessionepoch = loop.observedsessionepoch := by
  unfold Processor.observeCapture
  dsimp only
  split_ifs <;> exact ⟨rfl, rfl, rfl⟩

theorem drainCapture_observed (config : ProcessorConfig) (gate : Gate)
    (encode : Nat → Option (List UInt8)) (k : Nat) (frames : List (PcmFrame α))
    (capture : Capture α) (loop : WorkerLoop) :
    (drainCapture config gate encode k frames capture loop).2.observedsessionepoch =
      loop.observedsessionepoch := by
  induction frames generalizing k capture loop with
  | nil => rfl
  | cons frame frames ih =>
      unfold drainCapture
      split_ifs
      · exact ih k capture loop
      · exact ih (k + 1) _ _

theorem encodeCaptured_playback :
    (processor.encodeCaptured loop input).1.playback = processor.playback ∧
      (processor.encodeCaptured loop input).2.observedsessionepoch =
        loop.observedsessionepoch := by
  unfold Processor.encodeCaptured
  split_ifs
  · exact ⟨rfl, drainCapture_observed ..⟩
  · exact ⟨rfl, rfl⟩

/-- A mix leaves the queue and the request alone, and only adds to the ring. -/
theorem mixOneFrame_ring (config : ProcessorConfig) (now : Int)
    (decode : UInt64 → Option (List Int)) (playback : Playback) :
    let mixed := (mixOneFrame config now decode playback).1
    mixed.incoming = playback.incoming ∧
      mixed.playbackclearrequested = playback.playbackclearrequested ∧
      playback.ring.length ≤ mixed.ring.length := by
  unfold mixOneFrame
  dsimp only
  split_ifs
  · exact ⟨rfl, rfl, le_rfl⟩
  · split
    · exact ⟨rfl, rfl, le_rfl⟩
    · rename_i ring hring
      unfold ringWrite at hring
      split_ifs at hring
      cases hring
      refine ⟨rfl, rfl, ?_⟩
      rw [List.length_append]
      omega

/-- The last stage mixes when a frame is due. -/
theorem mixDue_playback :
    (processor.mixDue loop input).2.observedsessionepoch = loop.observedsessionepoch ∧
      (processor.mixDue loop input).1.playback.incoming = processor.playback.incoming ∧
      (processor.mixDue loop input).1.playback.playbackclearrequested =
        processor.playback.playbackclearrequested ∧
      (processor.mixDue loop input).1.playback.ring =
        if loop.nextmix ≤ input.now then
          (mixOneFrame processor.config input.now input.decode processor.playback).1.ring
        else processor.playback.ring := by
  obtain ⟨hincoming, hcleared, -⟩ :=
    mixOneFrame_ring processor.config input.now input.decode processor.playback
  unfold Processor.mixDue
  by_cases hdue : loop.nextmix ≤ input.now
  · simp [hdue, hincoming, hcleared]
  · simp [hdue]

namespace Listener

variable {l : Listener}

theorem mem_present {speakers : Speakers} {admitted : List Accepted} {a : Accepted} :
    a ∈ present speakers admitted ↔ a ∈ admitted ∧ a.packet.speakerid ∈ speakers := by
  simp [present]

theorem mixSources_spec (config : ProcessorConfig) (input : Iteration) (playback : Playback)
    (admitted : List Accepted) (sources : List (List Accepted)) :
    ∃ new, mixSources config input playback admitted sources = sources ++ new ∧
      new.length = (mixOneFrame config input.now input.decode playback).1.ring.length -
        playback.ring.length ∧
      ∀ behind ∈ new, ∀ a ∈ behind, a ∈ admitted := by
  refine ⟨_, rfl, List.length_replicate, fun behind hbehind a ha => ?_⟩
  rw [List.eq_of_mem_replicate hbehind] at ha
  exact (List.mem_filter.mp ha).1

/-- The stages of a worker iteration: `p` is what the first two leave to
`processIncoming`, and `q` is what the third and fourth leave to the mix. -/
structure Stages (l : Listener) (loop : WorkerLoop) (input : Iteration) (p q : Processor Sample)
    (mixing : WorkerLoop) : Prop where
  gate : p.gate = l.processor.gate
  keeps : l.processor.playback.Keeps p.playback
  speakers : p.playback.speakers = ∅ ∨
    (p.playback.speakers = l.processor.playback.speakers ∧
      loop.observedsessionepoch = l.processor.gate.sessionepoch)
  admits : q.playback = (p.processIncoming input l.processor.gate.sessionepoch).playback
  observed : mixing.observedsessionepoch = l.processor.gate.sessionepoch
  processor : l.processor.workerIteration input =
    { (q.mixDue mixing input).1 with worker := .looping (q.mixDue mixing input).2 }
  listener : l.workerIteration input =
    let admitted := present q.playback.speakers (present p.playback.speakers l.admitted ++
      l.taken l.processor.gate.sessionepoch)
    { l with
      incoming := []
      admitted := admitted
      sources :=
        if mixing.nextmix ≤ input.now then
          mixSources q.config input q.playback admitted l.sources
        else l.sources }

theorem workerIteration_stages (hworker : l.processor.worker = .looping loop)
    (hrun : ¬ (l.processor.gate.running = false ∨ l.processor.gate.sessionepoch % 2 ≠ 0))
    (input : Iteration) : ∃ p q mixing, Stages l loop input p q mixing := by
  have hprocessor : l.processor.workerIteration input =
      let stage₁ := l.processor.observeSession loop input
      let stage₂ := stage₁.1.observeCapture stage₁.2
      let p₃ := stage₂.1.processIncoming input stage₂.2.observedsessionepoch
      let stage₄ := p₃.encodeCaptured stage₂.2 input
      let stage₅ := stage₄.1.mixDue stage₄.2 input
      { stage₅.1 with worker := .looping stage₅.2 } := by
    unfold Processor.workerIteration
    rw [hworker]
    exact if_neg hrun
  have hlistener : l.workerIteration input =
      let stage₁ := l.processor.observeSession loop input
      let admitted := present stage₁.1.playback.speakers l.admitted
      let stage₂ := stage₁.1.observeCapture stage₁.2
      let p₃ := stage₂.1.processIncoming input stage₂.2.observedsessionepoch
      let admitted := present p₃.playback.speakers
        (admitted ++ l.taken stage₂.2.observedsessionepoch)
      let stage₄ := p₃.encodeCaptured stage₂.2 input
      { l with
        incoming := []
        admitted := admitted
        sources :=
          if stage₄.2.nextmix ≤ input.now then
            mixSources stage₄.1.config input stage₄.1.playback admitted l.sources
          else l.sources } := by
    unfold Listener.workerIteration
    rw [hworker]
    exact if_neg hrun
  dsimp only at hprocessor hlistener
  obtain ⟨hobserved₁, hgate₁, hkeeps₁, hspeakers₁⟩ := @observeSession_playback _ l.processor loop input
  generalize l.processor.observeSession loop input = stage₁ at *
  obtain ⟨hplayback₂, hgate₂, hobserved₂⟩ := @observeCapture_playback _ stage₁.1 stage₁.2
  generalize stage₁.1.observeCapture stage₁.2 = stage₂ at *
  rw [hobserved₂, hobserved₁] at hprocessor hlistener
  obtain ⟨hplayback₄, hobserved₄⟩ := @encodeCaptured_playback _
    (stage₂.1.processIncoming input l.processor.gate.sessionepoch) stage₂.2 input
  generalize (stage₂.1.processIncoming input l.processor.gate.sessionepoch).encodeCaptured
    stage₂.2 input = stage₄ at *
  refine ⟨stage₂.1, stage₄.1, stage₄.2, hgate₂.trans hgate₁, hplayback₂ ▸ hkeeps₁,
    hplayback₂ ▸ hspeakers₁, hplayback₄, ?_, hprocessor, ?_⟩
  · rw [hobserved₄, hobserved₂, hobserved₁]
  · rw [hlistener, hplayback₄, hplayback₂]

/-- A worker runs in its loop, while the processor runs and no transition is
under way; otherwise nothing happens. -/
theorem workerIteration_cases (l : Listener) (input : Iteration) :
    (l.processor.workerIteration input = l.processor ∧ l.workerIteration input = l) ∨
      ∃ loop, l.processor.worker = .looping loop ∧
        ¬ (l.processor.gate.running = false ∨ l.processor.gate.sessionepoch % 2 ≠ 0) := by
  unfold Processor.workerIteration Listener.workerIteration
  cases l.processor.worker with
  | none => exact .inl ⟨rfl, rfl⟩
  | spawned => exact .inl ⟨rfl, rfl⟩
  | looping loop =>
      by_cases hstopped :
          l.processor.gate.running = false ∨ l.processor.gate.sessionepoch % 2 ≠ 0
      · exact .inl ⟨if_pos hstopped, if_pos hstopped⟩
      · exact .inr ⟨loop, rfl, hstopped⟩

/-- **What a worker iteration does**: it observes the session epoch and empties
the incoming queue; what it has admitted then is from the queue, or was
admitted before under the same epoch; and what it adds to the ring is from what
it has admitted. -/
structure Ran (l : Listener) (loop : WorkerLoop) (input : Iteration) : Prop where
  observed : ∃ loop', (l.processor.workerIteration input).worker = .looping loop' ∧
    loop'.observedsessionepoch = l.processor.gate.sessionepoch
  incoming : (l.processor.workerIteration input).playback.incoming = []
  cleared : l.processor.playback.playbackclearrequested = true →
    (l.processor.workerIteration input).playback.playbackclearrequested = true
  queue : (l.workerIteration input).incoming = []
  admitted : ∀ a ∈ (l.workerIteration input).admitted, a ∈ l.incoming ∨
    a ∈ l.admitted ∧ loop.observedsessionepoch = l.processor.gate.sessionepoch
  sources : ∃ new, (l.workerIteration input).sources = l.sources ++ new ∧
    ∀ behind ∈ new, ∀ a ∈ behind, a ∈ (l.workerIteration input).admitted
  length : l.sources.length = l.processor.playback.ring.length →
    (l.workerIteration input).sources.length =
      (l.processor.workerIteration input).playback.ring.length

theorem workerIteration_ran (hworker : l.processor.worker = .looping loop)
    (hrun : ¬ (l.processor.gate.running = false ∨ l.processor.gate.sessionepoch % 2 ≠ 0))
    (input : Iteration) : Ran l loop input := by
  obtain ⟨p, q, mixing, hstages⟩ := workerIteration_stages hworker hrun input
  obtain ⟨hobserved, hincoming, hcleared, hring⟩ := @mixDue_playback _ q mixing input
  have hqring : q.playback.ring = l.processor.playback.ring := by
    rw [hstages.admits]
    exact hstages.keeps.ring
  have hqincoming : q.playback.incoming = [] := by
    rw [hstages.admits]
    rfl
  have hqcleared : q.playback.playbackclearrequested = p.playback.playbackclearrequested := by
    rw [hstages.admits]
    rfl
  have hgrows := (mixOneFrame_ring q.config input.now input.decode q.playback).2.2
  obtain ⟨new, hnew, hlength, hbehind⟩ := mixSources_spec q.config input q.playback
    (present q.playback.speakers (present p.playback.speakers l.admitted ++
      l.taken l.processor.gate.sessionepoch)) l.sources
  refine ⟨⟨(q.mixDue mixing input).2, ?_, hobserved.trans hstages.observed⟩, ?_, fun hclear => ?_,
    ?_, fun a ha => ?_, ?_, fun hlen => ?_⟩
  · rw [hstages.processor]
  · rw [hstages.processor]
    exact hincoming.trans hqincoming
  · rw [hstages.processor]
    exact (hcleared.trans hqcleared).trans (hstages.keeps.cleared hclear)
  · rw [hstages.listener]
  · rw [hstages.listener] at ha
    rcases List.mem_append.mp (mem_present.mp ha).1 with hold | htaken
    · obtain ⟨hadmitted, hspeaker⟩ := mem_present.mp hold
      rcases hstages.speakers with hnone | ⟨-, hepoch⟩
      · rw [hnone] at hspeaker
        exact absurd hspeaker (AList.notMem_empty _)
      · exact .inr ⟨hadmitted, hepoch⟩
    · exact .inl (List.mem_filter.mp htaken).1
  · rw [hstages.listener]
    dsimp only
    by_cases hdue : mixing.nextmix ≤ input.now
    · rw [if_pos hdue]
      exact ⟨new, hnew, hbehind⟩
    · rw [if_neg hdue]
      exact ⟨[], (List.append_nil _).symm, fun _ h => by cases h⟩
  · rw [hstages.listener, hstages.processor]
    dsimp only
    rw [hring]
    by_cases hdue : mixing.nextmix ≤ input.now
    · rw [if_pos hdue, if_pos hdue, hnew, List.length_append, hlength, hlen, ← hqring]
      omega
    · rw [if_neg hdue, if_neg hdue, hlen, hqring]

/-! ## What a call does -/

/-- The gate and the worker of one processor are those of another. -/
structure SameGate (p p' : Processor Sample) : Prop where
  worker : p'.worker = p.worker
  running : p'.gate.running = p.gate.running
  epoch : p'.gate.sessionepoch = p.gate.sessionepoch
  sessionid : p'.gate.sessionid = p.gate.sessionid
  generation : p'.gate.membershipgeneration = p.gate.membershipgeneration

theorem SameGate.refl (p : Processor Sample) : SameGate p p :=
  ⟨rfl, rfl, rfl, rfl, rfl⟩

/-- Nothing on the way of a downlink differs. -/
structure SameSide (p p' : Processor Sample) : Prop extends SameGate p p' where
  incoming : p'.playback.incoming = p.playback.incoming
  speakers : p'.playback.speakers = p.playback.speakers
  ring : p'.playback.ring = p.playback.ring
  cleared : p'.playback.playbackclearrequested = p.playback.playbackclearrequested

theorem SameGate.side {p p' : Processor Sample} (hgate : SameGate p p')
    (hplayback : p'.playback = p.playback) : SameSide p p' :=
  ⟨hgate, congrArg Playback.incoming hplayback, congrArg Playback.speakers hplayback,
    congrArg Playback.ring hplayback, congrArg Playback.playbackclearrequested hplayback⟩

/-- **A barrier cuts the receive side**: it empties the queue, asks for a clear
of the ring, and ends the worker with its speakers or opens a new session
epoch. -/
structure Cuts (p p' : Processor Sample) : Prop where
  incoming : p'.playback.incoming = []
  ring : p'.playback.ring = p.playback.ring
  cleared : p'.playback.playbackclearrequested = true
  worker : (p'.worker = .none ∧ p'.playback.speakers = ∅) ∨
    (p'.worker = p.worker ∧ p'.gate.running = p.gate.running ∧
      p.gate.sessionepoch < p'.gate.sessionepoch ∧ p'.playback.speakers = p.playback.speakers)

/-- **What a call does** on the way of a downlink: nothing, a cut, or one of
the calls that start and enter the worker, run it, read the ring or bring a
packet. -/
inductive Effect (l : Listener) (call : ClientCall) : Prop
  | idle (hbarrier : call.isBarrier l.processor.gate = false)
      (hside : SameSide l.processor (l.client.run l.clock call)) (hmoves : l.moves call = l)
  | cut (hbarrier : call.isBarrier l.processor.gate = true)
      (hcuts : Cuts l.processor (l.client.run l.clock call))
      (hmoves : l.moves call = { l with incoming := [] })
  | started (setupOk : Bool) (hcall : call = .start setupOk)
      (hoff : l.processor.gate.running = false)
      (hrun : l.client.run l.clock call =
        { l.processor with
          gate := { l.processor.gate with
            captureepoch := l.processor.gate.captureepoch + 1
            running := true }
          worker := .spawned })
  | entered (now : Int) (hcall : call = .workerPrelude now)
      (hworker : l.processor.worker = .spawned) (capture : Capture Sample) (loop : WorkerLoop)
      (hrun : l.client.run l.clock call =
        { l.processor with capture := capture, worker := .looping loop })
      (hobserved : loop.observedsessionepoch = l.processor.gate.sessionepoch)
  | worked (input : Iteration) (hcall : call = .workerIteration input)
  | popped (samplecount : Nat) (hcall : call = .popPlayback samplecount)
      (hsome : samplecount ≠ 0)
  | pushed (packet : DownlinkPacket) (hcall : call = .pushIncomingPacket packet)

theorem setSession_cuts (p : Processor Sample) (sessionid : UInt64)
    (membershipgeneration : UInt32) (localplayerid : UInt64) :
    Cuts p (p.setSession sessionid membershipgeneration localplayerid) :=
  ⟨rfl, rfl, rfl, .inr ⟨rfl, rfl, Nat.lt_add_of_pos_right Nat.two_pos, rfl⟩⟩

theorem setTransmitting_keeps (p : Processor Sample) (transmitting : Bool) :
    SameGate p (p.setTransmitting transmitting) ∧
      (p.setTransmitting transmitting).playback = p.playback := by
  unfold Processor.setTransmitting
  split_ifs <;> exact ⟨⟨rfl, rfl, rfl, rfl, rfl⟩, rfl⟩

theorem handleSessionPacket_cuts (p : Processor Sample) {packet : SessionPacket}
    (hvalid : validateTeamVoiceSessionPacket packet = .none) :
    Cuts p (p.handleSessionPacket packet) := by
  unfold Processor.handleSessionPacket
  rw [if_neg (not_not.mpr hvalid)]
  split_ifs
  · obtain ⟨hgate, hplayback⟩ := setTransmitting_keeps p false
    obtain ⟨hincoming, hring, hcleared, hworker⟩ := setSession_cuts (p.setTransmitting false) 0 0 0
    rw [hgate.worker, hgate.running, hgate.epoch, hplayback] at hworker
    exact ⟨hincoming, hring.trans (congrArg Playback.ring hplayback), hcleared, hworker⟩
  · exact setSession_cuts p packet.sessionid packet.membershipgeneration packet.playerid

theorem setEnabled_cuts (p : Processor Sample) {enabled : Bool}
    (hnew : p.gate.enabled ≠ enabled) : Cuts p (p.setEnabled enabled) := by
  unfold Processor.setEnabled
  rw [if_neg hnew]
  exact ⟨rfl, rfl, rfl, .inr ⟨rfl, rfl, Nat.lt_add_of_pos_right Nat.two_pos, rfl⟩⟩

theorem stop_cuts (p : Processor Sample) : Cuts p p.stop :=
  ⟨rfl, rfl, rfl, .inl ⟨rfl, rfl⟩⟩

theorem setControl_side (p : Processor Sample) (speakerid : UInt64) (muted : Option Bool)
    (volume : Option ℚ) :
    SameSide p
      { p with playback := (p.playback.setControl p.config speakerid muted volume).1 } := by
  unfold Playback.setControl
  dsimp only
  split_ifs <;> exact ⟨⟨rfl, rfl, rfl, rfl, rfl⟩, rfl, rfl, rfl, rfl⟩

/-- A call that turns out to change nothing. -/
theorem Effect.of_same {call : ClientCall} (hrun : l.client.run l.clock call = l.processor)
    (hbarrier : call.isBarrier l.processor.gate = false) (hmoves : l.moves call = l) :
    Effect l call :=
  .idle hbarrier (hrun ▸ (SameGate.refl _).side rfl) hmoves

/-- **What each call does.** -/
theorem perform_effect (l : Listener) (call : ClientCall) : Effect l call := by
  cases call with
  | start setupOk =>
      by_cases hstarts : l.processor.gate.running = false ∧ setupOk = true
      · refine .started setupOk rfl hstarts.1 ?_
        show (l.processor.start setupOk).1 = _
        unfold Processor.start
        rw [if_neg (by simp [hstarts.1]), if_neg (by simp [hstarts.2])]
      · refine .of_same ?_ rfl rfl
        show (l.processor.start setupOk).1 = _
        unfold Processor.start
        by_cases hon : l.processor.gate.running = true
        · rw [if_pos hon]
        · have hsetup : setupOk = false := by
            simpa [Bool.eq_false_of_not_eq_true hon] using hstarts
          rw [if_neg hon, if_pos hsetup]
  | stop => exact .cut rfl (stop_cuts l.processor) rfl
  | setEnabled enabled =>
      by_cases hold : l.processor.gate.enabled = enabled
      · have hbarrier : (ClientCall.setEnabled enabled).isBarrier l.processor.gate = false := by
          simp [ClientCall.isBarrier, hold]
        exact .of_same (if_pos hold) hbarrier (if_neg (by simp [hbarrier]))
      · have hbarrier : (ClientCall.setEnabled enabled).isBarrier l.processor.gate = true := by
          simp [ClientCall.isBarrier, hold]
        exact .cut hbarrier (setEnabled_cuts l.processor hold) (if_pos hbarrier)
  | setTransmitting transmitting =>
      obtain ⟨hgate, hplayback⟩ := setTransmitting_keeps l.processor transmitting
      exact .idle rfl (hgate.side hplayback) rfl
  | setLocalMuted muted =>
      have hkeeps : SameGate l.processor (l.processor.setLocalMuted muted) ∧
          (l.processor.setLocalMuted muted).playback = l.processor.playback := by
        unfold Processor.setLocalMuted
        split_ifs <;> exact ⟨⟨rfl, rfl, rfl, rfl, rfl⟩, rfl⟩
      exact .idle rfl (hkeeps.1.side hkeeps.2) rfl
  | setSession sessionid membershipgeneration localplayerid =>
      exact .cut rfl (setSession_cuts l.processor sessionid membershipgeneration localplayerid) rfl
  | clearSession => exact .cut rfl (setSession_cuts l.processor 0 0 0) rfl
  | handleSessionPacket control =>
      by_cases hvalid : validateTeamVoiceSessionPacket control.packet = .none
      · have hbarrier : (ClientCall.handleSessionPacket control).isBarrier
            l.processor.gate = true := by
          simp [ClientCall.isBarrier, hvalid]
        exact .cut hbarrier (handleSessionPacket_cuts l.processor hvalid) (if_pos hbarrier)
      · have hbarrier : (ClientCall.handleSessionPacket control).isBarrier
            l.processor.gate = false := by
          simp [ClientCall.isBarrier, hvalid]
        exact .of_same (if_pos hvalid) hbarrier (if_neg (by simp [hbarrier]))
  | pushCaptured input =>
      have hkeeps : ∀ samples : List Sample, SameGate l.processor
          (l.processor.pushCaptured samples) ∧
            (l.processor.pushCaptured samples).playback = l.processor.playback := by
        intro samples
        unfold Processor.pushCaptured
        dsimp only
        split_ifs <;> exact ⟨⟨rfl, rfl, rfl, rfl, rfl⟩, rfl⟩
      obtain ⟨hgate, hplayback⟩ := hkeeps (input.map (l.client.stamp l.clock))
      exact .idle rfl (hgate.side hplayback) rfl
  | workerPrelude now =>
      have hrun : l.client.run l.clock (.workerPrelude now) = l.processor.workerPrelude now := rfl
      unfold Processor.workerPrelude at hrun
      cases hworker : l.processor.worker with
      | spawned =>
          rw [hworker] at hrun
          exact .entered now rfl hworker _ _ hrun rfl
      | none =>
          rw [hworker] at hrun
          exact .of_same hrun rfl rfl
      | looping loop =>
          rw [hworker] at hrun
          exact .of_same hrun rfl rfl
  | workerIteration input => exact .worked input rfl
  | popOutgoingPacket =>
      have hkeeps : SameGate l.processor l.processor.popOutgoingPacket.1 ∧
          l.processor.popOutgoingPacket.1.playback = l.processor.playback := by
        unfold Processor.popOutgoingPacket
        split_ifs <;> exact ⟨⟨rfl, rfl, rfl, rfl, rfl⟩, rfl⟩
      exact .idle rfl (hkeeps.1.side hkeeps.2) rfl
  | popPlayback samplecount =>
      by_cases hzero : samplecount = 0
      · refine .of_same ?_ rfl (if_pos hzero)
        show (l.processor.popPlayback samplecount).1 = _
        rw [Processor.popPlayback, if_pos hzero]
      · exact .popped samplecount rfl hzero
  | pushIncomingPacket packet => exact .pushed packet rfl
  | setSpeakerMuted speakerid muted =>
      exact .idle rfl (setControl_side l.processor speakerid (some muted) none) rfl
  | setSpeakerVolume speakerid volume =>
      exact .idle rfl (setControl_side l.processor speakerid none (some volume)) rfl

/-! ## The invariant -/

variable {P : Accepted → Prop} {call : ClientCall}

/-- **The invariant** for a property of downlinks: it holds of what waits; of
what has been admitted, once the worker has observed the session epoch, and
there is nothing while it is not in its loop; and of what the ring holds,
unless that is about to be cleared. -/
structure Inv (P : Accepted → Prop) (l : Listener) : Prop where
  incoming : ∀ a ∈ l.incoming, P a
  stopped : l.processor.gate.running = false → l.processor.worker = .none
  idle : (∀ loop, l.processor.worker ≠ .looping loop) → l.admitted = []
  observed : ∀ loop, l.processor.worker = .looping loop →
    loop.observedsessionepoch ≤ l.processor.gate.sessionepoch
  admitted : ∀ loop, l.processor.worker = .looping loop →
    loop.observedsessionepoch = l.processor.gate.sessionepoch → ∀ a ∈ l.admitted, P a
  length : l.sources.length = l.processor.playback.ring.length
  sources : l.processor.playback.playbackclearrequested = true ∨
    ∀ behind ∈ l.sources, ∀ a ∈ behind, P a

/-- **What the device reads has the property.** -/
theorem Inv.readable (h : Inv P l) : ∀ behind ∈ l.readable, ∀ a ∈ behind, P a := by
  intro behind hmem
  unfold Listener.readable at hmem
  by_cases hclear : l.processor.playback.playbackclearrequested = true
  · rw [if_pos hclear] at hmem
    cases hmem
  · rw [if_neg hclear] at hmem
    exact h.sources.resolve_left hclear behind hmem

/-- Every sample that is read has its sources. -/
theorem Inv.popSources_length (h : Inv P l) (samplecount : Nat) :
    (l.popSources samplecount).length = (l.processor.popPlayback samplecount).2.length := by
  unfold popSources Processor.popPlayback Listener.readable
  by_cases hzero : samplecount = 0
  · simp [hzero]
  · by_cases hclear : l.processor.playback.playbackclearrequested = true
    · simp [hzero, hclear]
    · simp [hzero, hclear, h.length]

theorem present_nil {speakers : Speakers} {admitted : List Accepted} (h : admitted = []) :
    present speakers admitted = [] := by
  rw [h]
  rfl

/-- What a call has moved, field by field. -/
theorem perform_moved (l : Listener) (call : ClientCall) :
    (l.perform call).incoming = (l.moves call).incoming ∧
      (l.perform call).sources = (l.moves call).sources ∧
      (l.perform call).admitted ⊆ (l.moves call).admitted :=
  ⟨rfl, rfl, List.filter_sublist.subset⟩

/-- A call that leaves gate and worker alone, and at most takes samples off the
ring or adds to the queue. -/
theorem Inv.quiet (h : Inv P l) (hgate : SameGate l.processor (l.client.run l.clock call))
    (hincoming : ∀ a ∈ (l.moves call).incoming, P a)
    (hadmitted : (l.moves call).admitted = l.admitted)
    (hlength : (l.moves call).sources.length =
      (l.client.run l.clock call).playback.ring.length)
    (hsources : (l.client.run l.clock call).playback.playbackclearrequested = true ∨
      ∀ behind ∈ (l.moves call).sources, ∀ a ∈ behind, P a) : Inv P (l.perform call) := by
  have hsubset : (l.perform call).admitted ⊆ l.admitted :=
    hadmitted ▸ (perform_moved l call).2.2
  have hworker : (l.perform call).processor.worker = l.processor.worker := hgate.worker
  have hrunning : (l.perform call).processor.gate.running = l.processor.gate.running :=
    hgate.running
  have hepoch : (l.perform call).processor.gate.sessionepoch = l.processor.gate.sessionepoch :=
    hgate.epoch
  refine ⟨hincoming, ?_, ?_, ?_, ?_, hlength, hsources⟩
  · rw [hrunning, hworker]
    exact h.stopped
  · rw [hworker]
    intro hidle
    exact List.subset_nil.mp (h.idle hidle ▸ hsubset)
  · rw [hworker, hepoch]
    exact h.observed
  · rw [hworker, hepoch]
    intro loop hloop hobserved a ha
    exact h.admitted loop hloop hobserved a (hsubset ha)

/-- **Behind a barrier nothing is left**, whatever the property. -/
theorem Inv.cut {Q : Accepted → Prop} (h : Inv P l)
    (hcuts : Cuts l.processor (l.client.run l.clock call))
    (hmoves : l.moves call = { l with incoming := [] }) : Inv Q (l.perform call) := by
  have hmoved : (l.perform call).incoming = [] ∧ (l.perform call).sources = l.sources ∧
      (l.perform call).admitted =
        present (l.client.run l.clock call).playback.speakers l.admitted := by
    unfold perform
    rw [hmoves]
    exact ⟨rfl, rfl, rfl⟩
  refine ⟨?_, ?_, ?_, ?_, ?_, ?_, .inl hcuts.cleared⟩
  · rw [hmoved.1]
    exact fun a ha => by cases ha
  · show (l.client.run l.clock call).gate.running = false →
      (l.client.run l.clock call).worker = .none
    rcases hcuts.worker with ⟨hnone, -⟩ | ⟨hsame, hrunning, -⟩
    · exact fun _ => hnone
    · rw [hsame, hrunning]
      exact h.stopped
  · rw [hmoved.2.2]
    intro hidle
    rcases hcuts.worker with ⟨-, hspeakers⟩ | ⟨hsame, -, -⟩
    · rw [hspeakers]
      exact List.filter_eq_nil_iff.mpr fun a _ => by simp [AList.notMem_empty]
    · exact present_nil (h.idle fun loop hloop => hidle loop (hsame.trans hloop))
  · intro loop hloop
    have hloop : (l.client.run l.clock call).worker = .looping loop := hloop
    rcases hcuts.worker with ⟨hnone, -⟩ | ⟨hsame, -, hepoch, -⟩
    · cases hnone.symm.trans hloop
    · exact (h.observed loop (hsame.symm.trans hloop)).trans hepoch.le
  · -- the epoch the worker has observed is not the new one
    intro loop hloop hobserved
    have hloop : (l.client.run l.clock call).worker = .looping loop := hloop
    rcases hcuts.worker with ⟨hnone, -⟩ | ⟨hsame, -, hepoch, -⟩
    · cases hnone.symm.trans hloop
    · have hle := h.observed loop (hsame.symm.trans hloop)
      have hobserved : loop.observedsessionepoch =
          (l.client.run l.clock call).gate.sessionepoch := hobserved
      omega
  · rw [hmoved.2.1]
    exact h.length.trans (congrArg List.length hcuts.ring.symm)

/-- The iteration of a worker. -/
theorem Inv.worker (h : Inv P l) (input : Iteration) :
    Inv P (l.perform (.workerIteration input)) := by
  rcases workerIteration_cases l input with ⟨hsame, hmoves⟩ | ⟨loop, hworker, hrun⟩
  · have hrun : l.client.run l.clock (.workerIteration input) = l.processor := hsame
    have hmoves : l.moves (.workerIteration input) = l := hmoves
    apply h.quiet (hrun ▸ SameGate.refl _)
    · rw [hmoves]
      exact h.incoming
    · rw [hmoves]
    · rw [hmoves, hrun]
      exact h.length
    · rw [hmoves, hrun]
      exact h.sources
  · obtain ⟨⟨loop', hloop', hobserved⟩, hincoming, hcleared, hqueue, hadmitted,
      ⟨new, hnew, hbehind⟩, hlength⟩ := workerIteration_ran hworker hrun input
    have hgate := workerIteration_gate l.processor input
    have hholds : ∀ a ∈ (l.workerIteration input).admitted, P a := by
      intro a ha
      rcases hadmitted a ha with hwaiting | ⟨hold, hepoch⟩
      · exact h.incoming a hwaiting
      · exact h.admitted loop hworker hepoch a hold
    refine ⟨?_, ?_, ?_, ?_, ?_, hlength h.length, ?_⟩
    · show ∀ a ∈ (l.workerIteration input).incoming, _
      rw [hqueue]
      exact fun a ha => by cases ha
    · show (l.processor.workerIteration input).gate.running = false → _
      rw [hgate]
      exact fun hoff => absurd (.inl hoff) hrun
    · exact fun hidle => absurd hloop' (hidle loop')
    · intro other hother
      cases hloop'.symm.trans hother
      show _ ≤ (l.processor.workerIteration input).gate.sessionepoch
      rw [hgate, hobserved]
    · intro _ _ _ a ha
      exact hholds a (mem_present.mp ha).1
    · refine h.sources.imp hcleared fun hall behind hmem a ha => ?_
      have hmem : behind ∈ (l.workerIteration input).sources := hmem
      rw [hnew] at hmem
      rcases List.mem_append.mp hmem with hold | hadded
      · exact hall behind hold a ha
      · exact hholds a (hbehind behind hadded a ha)

/-- The device takes samples off the ring, after the clear it was asked for. -/
theorem Inv.pop (h : Inv P l) {samplecount : Nat} (hsome : samplecount ≠ 0) :
    Inv P (l.perform (.popPlayback samplecount)) := by
  have hrun : l.client.run l.clock (.popPlayback samplecount) =
      { l.processor with
        playback := { l.processor.playback with
          playbackclearrequested := false
          ring := (if l.processor.playback.playbackclearrequested then []
            else l.processor.playback.ring).drop samplecount } } := by
    show (l.processor.popPlayback samplecount).1 = _
    rw [Processor.popPlayback, if_neg hsome]
  have hmoves : l.moves (.popPlayback samplecount) =
      { l with sources := l.readable.drop samplecount } := if_neg hsome
  apply h.quiet
  · rw [hrun]
    exact ⟨rfl, rfl, rfl, rfl, rfl⟩
  · rw [hmoves]
    exact h.incoming
  · rw [hmoves]
  · rw [hmoves, hrun, Listener.readable]
    by_cases hclear : l.processor.playback.playbackclearrequested = true
    · simp [hclear]
    · simp [hclear, h.length]
  · rw [hmoves]
    exact .inr fun behind hmem => h.readable behind (List.mem_of_mem_drop hmem)

/-- An accepted downlink waits for the worker. -/
theorem Inv.push (h : Inv P l) {packet : DownlinkPacket}
    (hnew : (l.processor.pushIncomingPacket packet).2 = true →
      P ⟨packet, l.clock, l.processor.gate.sessionepoch⟩) :
    Inv P (l.perform (.pushIncomingPacket packet)) := by
  have hkeeps : SameGate l.processor (l.processor.pushIncomingPacket packet).1 ∧
      (l.processor.pushIncomingPacket packet).1.playback.ring = l.processor.playback.ring ∧
      (l.processor.pushIncomingPacket packet).1.playback.playbackclearrequested =
        l.processor.playback.playbackclearrequested := by
    unfold Processor.pushIncomingPacket
    by_cases haccepts : l.processor.gate.accepts packet = true
    · rw [if_pos haccepts]
      exact ⟨⟨rfl, rfl, rfl, rfl, rfl⟩, rfl, rfl⟩
    · rw [if_neg haccepts]
      exact ⟨⟨rfl, rfl, rfl, rfl, rfl⟩, rfl, rfl⟩
  have hmoved : (l.accept packet).admitted = l.admitted ∧
      (l.accept packet).sources = l.sources := by
    unfold accept
    split_ifs <;> exact ⟨rfl, rfl⟩
  obtain ⟨hgate, hring, hcleared⟩ := hkeeps
  refine h.quiet hgate ?_ hmoved.1 ?_ ?_
  · show ∀ a ∈ (l.accept packet).incoming, P a
    unfold accept
    by_cases haccepted : (l.processor.pushIncomingPacket packet).2 = true
    · rw [if_pos haccepted]
      intro a ha
      rcases List.mem_append.mp ha with hold | hlast
      · split at hold
        · exact h.incoming a (List.mem_of_mem_drop hold)
        · exact h.incoming a hold
      · exact List.mem_singleton.mp hlast ▸ hnew haccepted
    · rw [if_neg haccepted]
      exact h.incoming
  · show (l.accept packet).sources.length =
      (l.processor.pushIncomingPacket packet).1.playback.ring.length
    rw [hmoved.2, hring, h.length]
  · show (l.processor.pushIncomingPacket packet).1.playback.playbackclearrequested = true ∨
      ∀ behind ∈ (l.accept packet).sources, _
    rw [hmoved.2, hcleared]
    exact h.sources

/-- **Each call keeps the invariant** for a property that an accepted downlink
has. -/
theorem step_inv (h : Inv P l) (call : ClientCall)
    (hnew : ∀ packet, call = .pushIncomingPacket packet →
      (l.processor.pushIncomingPacket packet).2 = true →
      P ⟨packet, l.clock, l.processor.gate.sessionepoch⟩) : Inv P (l.perform call) := by
  cases perform_effect l call with
  | idle _ hside hmoves =>
      refine h.quiet hside.toSameGate ?_ (by rw [hmoves]) ?_ ?_
      · rw [hmoves]
        exact h.incoming
      · rw [hmoves, hside.ring]
        exact h.length
      · rw [hmoves, hside.cleared]
        exact h.sources
  | cut _ hcuts hmoves => exact h.cut hcuts hmoves
  | started setupOk hcall hoff hrun =>
      subst hcall
      have hnone : l.admitted = [] := by
        apply h.idle
        intro loop hloop
        cases (h.stopped hoff).symm.trans hloop
      refine ⟨h.incoming, ?_, ?_, ?_, ?_, ?_, h.sources.imp_left fun hclear => ?_⟩
      all_goals simp only [perform, Client.perform, hrun]
      · exact fun hno => by cases hno
      · exact fun _ => present_nil hnone
      · exact fun loop hloop => by cases hloop
      · exact fun loop hloop => by cases hloop
      · exact h.length
      · exact hclear
  | entered now hcall hworker capture loop hrun hobserved =>
      subst hcall
      have hnone : l.admitted = [] := by
        apply h.idle
        intro other hother
        cases hworker.symm.trans hother
      refine ⟨h.incoming, ?_, ?_, ?_, ?_, ?_, h.sources.imp_left fun hclear => ?_⟩
      all_goals simp only [perform, Client.perform, hrun]
      · intro hoff
        cases hworker.symm.trans (h.stopped hoff)
      · exact fun _ => present_nil hnone
      · intro other hother
        cases hother
        exact hobserved.le
      · intro other _ _ a ha
        rw [show l.moves (.workerPrelude now) = l from rfl, present_nil hnone] at ha
        cases ha
      · exact h.length
      · exact hclear
  | worked input hcall => exact hcall ▸ h.worker input
  | popped samplecount hcall hsome => exact hcall ▸ h.pop hsome
  | pushed packet hcall => exact hcall ▸ h.push (hnew packet hcall)

/-- A call that is no barrier leaves the session in force. -/
theorem perform_session (l : Listener) (call : ClientCall)
    (hbarrier : call.isBarrier l.processor.gate = false) :
    (l.client.run l.clock call).gate.sessionid = l.processor.gate.sessionid ∧
      (l.client.run l.clock call).gate.membershipgeneration =
        l.processor.gate.membershipgeneration := by
  cases perform_effect l call with
  | idle _ hside _ => exact ⟨hside.sessionid, hside.generation⟩
  | cut hcut _ _ => cases hbarrier.symm.trans hcut
  | started setupOk hcall hoff hrun => exact hrun ▸ ⟨rfl, rfl⟩
  | entered now hcall hworker capture loop hrun hobserved => exact hrun ▸ ⟨rfl, rfl⟩
  | worked input hcall =>
      subst hcall
      have hgate := workerIteration_gate l.processor input
      exact ⟨congrArg Gate.sessionid hgate, congrArg Gate.membershipgeneration hgate⟩
  | popped samplecount hcall hsome =>
      subst hcall
      have hgate : (l.processor.popPlayback samplecount).1.gate = l.processor.gate := by
        rw [Processor.popPlayback, if_neg hsome]
      exact ⟨congrArg Gate.sessionid hgate, congrArg Gate.membershipgeneration hgate⟩
  | pushed packet hcall =>
      subst hcall
      have hgate : (l.processor.pushIncomingPacket packet).1.gate = l.processor.gate := by
        unfold Processor.pushIncomingPacket
        split_ifs <;> rfl
      exact ⟨congrArg Gate.sessionid hgate, congrArg Gate.membershipgeneration hgate⟩

/-- An accepted downlink is of the session in force. -/
theorem accepted_session {p : Processor Sample} {packet : DownlinkPacket}
    (haccepted : (p.pushIncomingPacket packet).2 = true) :
    packet.sessionid = p.gate.sessionid ∧
      packet.recipientgeneration = p.gate.membershipgeneration := by
  unfold Processor.pushIncomingPacket at haccepted
  split_ifs at haccepted with hgate
  simp only [Gate.accepts, decide_eq_true_eq] at hgate
  exact ⟨hgate.2.2.2.1, hgate.2.2.2.2.1⟩

/-! ## The law in every run -/

/-- What stands behind the law: the barrier lies in the past, the gate has the
session it left, and what is on its way is fresh. -/
structure Behind (l : Listener) : Prop where
  past : l.barrier < l.clock
  session : l.inForce = (l.processor.gate.sessionid, l.processor.gate.membershipgeneration)
  inv : Inv l.Fresh l

theorem Behind.start (config : ProcessorConfig) : Behind (start config) :=
  ⟨Nat.one_pos, rfl, (fun _ ha => by cases ha), fun _ => rfl, fun _ => rfl,
    (fun _ hloop => by cases hloop), (fun _ hloop => by cases hloop), rfl,
    .inr fun _ hmem => by cases hmem⟩

/-- A barrier leaves nothing behind it, and any other call brings in what is
fresh. -/
theorem Behind.perform (h : Behind l) (call : ClientCall) : Behind (l.perform call) := by
  by_cases hbarrier : call.isBarrier l.processor.gate = true
  · have hcut : (l.perform call).barrier = l.clock ∧
        (l.perform call).inForce = ((l.client.run l.clock call).gate.sessionid,
          (l.client.run l.clock call).gate.membershipgeneration) := by
      unfold Listener.perform
      rw [hbarrier]
      exact ⟨rfl, rfl⟩
    refine ⟨?_, hcut.2, ?_⟩
    · rw [hcut.1]
      exact Nat.lt_succ_self _
    · cases perform_effect l call with
      | cut _ hcuts hmoves => exact h.inv.cut hcuts hmoves
      | idle hidle _ _ => cases hbarrier.symm.trans hidle
      | started _ hcall => cases hcall ▸ hbarrier
      | entered _ hcall => cases hcall ▸ hbarrier
      | worked _ hcall => cases hcall ▸ hbarrier
      | popped _ hcall => cases hcall ▸ hbarrier
      | pushed _ hcall => cases hcall ▸ hbarrier
  · have hquiet : call.isBarrier l.processor.gate = false := Bool.not_eq_true _ ▸ hbarrier
    have hkept : (l.perform call).barrier = l.barrier ∧
        (l.perform call).inForce = l.inForce := by
      unfold Listener.perform
      rw [hquiet]
      exact ⟨rfl, rfl⟩
    have hfresh : (l.perform call).Fresh = l.Fresh := by
      funext a
      refine propext ⟨fun ha => ⟨hkept.1 ▸ ha.time, ?_, ?_⟩, fun ha => ⟨hkept.1 ▸ ha.time, ?_, ?_⟩⟩
      · exact hkept.2 ▸ ha.session
      · exact hkept.2 ▸ ha.generation
      · exact hkept.2 ▸ ha.session
      · exact hkept.2 ▸ ha.generation
    obtain ⟨hsession, hgeneration⟩ := perform_session l call hquiet
    refine ⟨?_, ?_, ?_⟩
    · rw [hkept.1]
      exact h.past.trans (Nat.lt_succ_self _)
    · rw [hkept.2, h.session, ← hsession, ← hgeneration]
      rfl
    · rw [hfresh]
      refine step_inv h.inv call fun packet _ haccepted => ?_
      obtain ⟨hsession, hgeneration⟩ := accepted_session haccepted
      exact ⟨h.past, hsession.trans (congrArg Prod.fst h.session).symm,
        hgeneration.trans (congrArg Prod.snd h.session).symm⟩

/-- **The session barrier.**  In every run, each ring sample that the device
reads was mixed only from downlinks that were accepted after the last
`setSession`, `clearSession`, effective `setEnabled` or `stop`, and that carry
the session and the generation in force since. -/
theorem playback_barrier {config : ProcessorConfig} {l : Listener}
    (h : Exec.Reached step (start config) l) (samplecount : Nat) :
    l.inForce = (l.processor.gate.sessionid, l.processor.gate.membershipgeneration) ∧
      (l.popSources samplecount).length = (l.processor.popPlayback samplecount).2.length ∧
      ∀ behind ∈ l.popSources samplecount, ∀ a ∈ behind, l.Fresh a := by
  have hbehind : Behind l := by
    refine h.invariant Behind (Behind.start config) fun s call t hs hstep => ?_
    obtain rfl := Option.some.inj hstep
    exact hs.perform call
  refine ⟨hbehind.session, hbehind.inv.popSources_length samplecount, fun behind hmem => ?_⟩
  exact hbehind.inv.readable behind (List.mem_of_mem_take hmem)

/-- A session begins, a downlink is accepted and played. -/
theorem playback_barrier_played :
    ∃ l : Listener, (∃ behind ∈ l.popSources 2, ∃ a ∈ behind, a.packet.sequence = 3) ∧
      (∀ behind ∈ l.popSources 2, ∀ a ∈ behind, l.Fresh a) ∧
      (l.processor.popPlayback 2).2 = [7, 7] := by
  let packet : DownlinkPacket :=
    { sessionid := 5, recipientgeneration := 1, speakerid := 2, speakergeneration := 1,
      streamgeneration := 1, sequence := 3, payload := [1] }
  let run : List ClientCall :=
    [.start true, .workerPrelude 0, .setSession 5 1 9, .workerIteration {}, .popPlayback 2,
      .pushIncomingPacket packet, .workerIteration {},
      .workerIteration
        { decode := fun _ => some (List.replicate frameSamples 7), now := milliseconds 80 }]
  obtain ⟨l, hl, hplayed⟩ : ∃ l, Exec.exec step (start {}) run = some l ∧
      ((l.processor.popPlayback 2).2 == [7, 7] &&
        (l.popSources 2).any (·.any (·.packet.sequence == 3))) = true :=
    Exec.exec_any (by decide +kernel)
  simp only [Bool.and_eq_true, beq_iff_eq, List.any_eq_true] at hplayed
  exact ⟨l, hplayed.2, (playback_barrier ⟨run, hl⟩ 2).2.2, hplayed.1⟩

end Listener

end Voice
