import GipMultiplayer.Exec
import GipMultiplayer.VoiceClient

/-!
# Muting a speaker

`setSpeakerMuted` writes a table of controls by speaker id.  The table outlives
the speakers' records, and `mixOneFrame` asks it for every frame that it has
decoded.  Two kinds of call write it: the control calls, and `setSession`, which
clears it for a new generation of the same session as for another session.

* `mixInputs` — the decoded frames that enter a mix, with their speakers;
* `Processor.workerIteration_congr` — what the decoder of a muted speaker
  returns is not heard;
* `Client.run_muted` — which calls a mute outlasts;
* `MutingClient.speaker_mute_lasts` — the law along every run in which no
  session control is for the session that the client is already in;
* `MutingClient.heard_after_control` — and such a control breaks it.
-/

namespace Voice

variable {α : Type}

/-! ## What enters a mix -/

section Mixing

variable (config : ProcessorConfig) (now : Int)

/-- The decoded frames that `mixOneFrame` mixes, with the ids of their
speakers. -/
def mixInputs (decode : UInt64 → Option (List Int)) (playback : Playback) :
    List (UInt64 × List Int) :=
  (decodeCalls config now playback.speakers).filterMap fun (id, _) =>
    let control := playback.getSpeakerControl id
    if control.muted then none
    else (decode id).map fun decoded => (id, applyVolume control decoded)

/-- What `mixOneFrame` does with its inputs. -/
def Playback.mixed (playback : Playback) (inputs : List (List Int)) : Playback :=
  let played := { playback with
    speakers := mapSpeakers (fun speaker => (speaker.mix config now).1) playback.speakers }
  if inputs = [] then { played with playbackactive := false }
  else
    match ringWrite config played.ring (mixFrames inputs frameSamples) with
    | none => played
    | some ring => { played with ring := ring, playbackactive := true }

variable {config now} {decode decode' : UInt64 → Option (List Int)} {playback : Playback}

/-- `mixOneFrame` mixes exactly the inputs. -/
theorem mixOneFrame_inputs :
    (mixOneFrame config now decode playback).1 =
      playback.mixed config now ((mixInputs config now decode playback).map Prod.snd) := by
  have hinputs : (mixInputs config now decode playback).map Prod.snd =
      (decodeCalls config now playback.speakers).filterMap fun (id, _) =>
        let control := playback.getSpeakerControl id
        if control.muted then none else (decode id).map (applyVolume control) := by
    rw [mixInputs, List.map_filterMap]
    apply List.filterMap_congr
    rintro ⟨id, _⟩ -
    dsimp only
    split_ifs
    · rfl
    · rw [Option.map_map]
      rfl
  rw [hinputs]
  unfold mixOneFrame Playback.mixed
  dsimp only
  generalize (decodeCalls config now playback.speakers).filterMap _ = inputs
  by_cases hnone : inputs = []
  · rw [if_pos hnone, if_pos hnone]
  · rw [if_neg hnone, if_neg hnone]
    cases ringWrite config playback.ring (mixFrames inputs frameSamples) with
    | none => rfl
    | some ring => rfl

theorem mixOneFrame_speakercontrols :
    (mixOneFrame config now decode playback).1.speakercontrols = playback.speakercontrols := by
  rw [mixOneFrame_inputs]
  unfold Playback.mixed
  dsimp only
  split_ifs
  · rfl
  · split <;> rfl

/-- No frame of a muted speaker is among the inputs. -/
theorem mixInputs_unmuted {input : UInt64 × List Int}
    (h : input ∈ mixInputs config now decode playback) :
    (playback.getSpeakerControl input.1).muted = false := by
  obtain ⟨⟨id, _⟩, -, hinput⟩ := List.mem_filterMap.mp h
  dsimp only at hinput
  split_ifs at hinput with hmuted
  obtain ⟨decoded, -, rfl⟩ := Option.map_eq_some_iff.mp hinput
  exact Bool.not_eq_true _ ▸ hmuted

/-- The inputs do not depend on the decoders of muted speakers. -/
theorem mixInputs_congr
    (h : ∀ id, (playback.getSpeakerControl id).muted = false → decode' id = decode id) :
    mixInputs config now decode' playback = mixInputs config now decode playback := by
  apply List.filterMap_congr
  rintro ⟨id, _⟩ -
  dsimp only
  split_ifs with hmuted
  · rfl
  · rw [h id (Bool.not_eq_true _ ▸ hmuted)]

end Mixing

/-! ## The mix of a worker iteration -/

/-- The stages of a worker iteration before its mix. -/
def Processor.beforeMix (processor : Processor α) (loop : WorkerLoop) (input : Iteration) :
    Processor α × WorkerLoop :=
  let (processor, loop) := processor.observeSession loop input
  let (processor, loop) := processor.observeCapture loop
  let processor := processor.processIncoming input loop.observedsessionepoch
  processor.encodeCaptured loop input

/-- The decoded frames that enter the mix of a worker iteration. -/
def Processor.mixedIn (processor : Processor α) (input : Iteration) : List (UInt64 × List Int) :=
  match processor.worker with
  | .looping loop =>
      if processor.gate.running = false ∨ processor.gate.sessionepoch % 2 ≠ 0 then []
      else
        let (processor, loop) := processor.beforeMix loop input
        if loop.nextmix ≤ input.now then
          mixInputs processor.config input.now input.decode processor.playback
        else []
  | _ => []

section Iterations

variable {processor : Processor α} {loop : WorkerLoop} {input : Iteration}

/-- No stage before the mix writes the table of controls. -/
theorem beforeMix_speakercontrols :
    (processor.beforeMix loop input).1.playback.speakercontrols =
      processor.playback.speakercontrols := by
  have hsession : (processor.observeSession loop input).1.playback.speakercontrols =
      processor.playback.speakercontrols := by
    unfold Processor.observeSession
    split_ifs <;> rfl
  have hcapture : ∀ (p : Processor α) (l : WorkerLoop),
      (p.observeCapture l).1.playback = p.playback := by
    intro p l
    unfold Processor.observeCapture
    dsimp only
    split_ifs <;> rfl
  have hencode : ∀ (p : Processor α) (l : WorkerLoop),
      (p.encodeCaptured l input).1.playback = p.playback := by
    intro p l
    unfold Processor.encodeCaptured
    split_ifs <;> rfl
  have hincoming : ∀ (p : Processor α) (epoch : Nat),
      (p.processIncoming input epoch).playback.speakercontrols = p.playback.speakercontrols :=
    fun _ _ => rfl
  unfold Processor.beforeMix
  dsimp only
  rw [hencode, hincoming, hcapture, hsession]

/-- **No frame of a muted speaker enters the mix.** -/
theorem Processor.mixedIn_unmuted {frame : UInt64 × List Int}
    (h : frame ∈ processor.mixedIn input) :
    (processor.playback.getSpeakerControl frame.1).muted = false := by
  unfold Processor.mixedIn at h
  cases hworker : processor.worker with
  | looping loop =>
      simp only [hworker] at h
      split_ifs at h
      · cases h
      · have hmuted := mixInputs_unmuted h
        rwa [Playback.getSpeakerControl, beforeMix_speakercontrols] at hmuted
      · cases h
  | none => simp only [hworker, List.not_mem_nil] at h
  | spawned => simp only [hworker, List.not_mem_nil] at h

theorem mixDue_speakercontrols :
    (processor.mixDue loop input).1.playback.speakercontrols =
      processor.playback.speakercontrols := by
  unfold Processor.mixDue
  by_cases hdue : loop.nextmix ≤ input.now
  · rw [if_pos hdue]
    exact mixOneFrame_speakercontrols
  · rw [if_neg hdue]

variable {decode : UInt64 → Option (List Int)}

theorem mixDue_congr (h : ∀ id, (processor.playback.getSpeakerControl id).muted = false →
      decode id = input.decode id) :
    processor.mixDue loop { input with decode := decode } = processor.mixDue loop input := by
  have hmix : (mixOneFrame processor.config input.now decode processor.playback).1 =
      (mixOneFrame processor.config input.now input.decode processor.playback).1 := by
    rw [mixOneFrame_inputs, mixOneFrame_inputs, mixInputs_congr h]
  unfold Processor.mixDue
  dsimp only
  rw [hmix]

/-- **What the decoder of a muted speaker returns is not heard.** -/
theorem Processor.workerIteration_congr
    (h : ∀ id, (processor.playback.getSpeakerControl id).muted = false →
      decode id = input.decode id) :
    processor.workerIteration { input with decode := decode } =
      processor.workerIteration input := by
  unfold Processor.workerIteration
  cases processor.worker with
  | looping loop =>
      have hmix : (processor.beforeMix loop input).1.mixDue (processor.beforeMix loop input).2
          { input with decode := decode } =
          (processor.beforeMix loop input).1.mixDue (processor.beforeMix loop input).2 input := by
        apply mixDue_congr
        intro id hmuted
        rw [Playback.getSpeakerControl, beforeMix_speakercontrols] at hmuted
        exact h id hmuted
      dsimp only
      split_ifs
      · rfl
      · exact congrArg (fun mixed : Processor α × WorkerLoop =>
          { mixed.1 with worker := .looping mixed.2 }) hmix
  | none => rfl
  | spawned => rfl

end Iterations

/-! ## Which calls a mute outlasts -/

/-- The session that a call sets, if it sets one. -/
def ClientCall.session : ClientCall → Option UInt64
  | .setSession sessionid _ _ => some sessionid
  | .clearSession => some 0
  | .handleSessionPacket control =>
      if validateTeamVoiceSessionPacket control.packet ≠ .none then none
      else if control.packet.enabled = false then some 0
      else some control.packet.sessionid
  | _ => none

section Controls

variable {config : ProcessorConfig} {playback : Playback}

/-- A control call writes the mute of its speaker, if it is about that and
succeeds. -/
theorem setControl_muted (speakerid id : UInt64) (muted : Option Bool) (volume : Option ℚ) :
    ((playback.setControl config speakerid muted volume).1.getSpeakerControl id).muted =
      if id = speakerid ∧ (playback.setControl config speakerid muted volume).2 = true then
        muted.getD (playback.getSpeakerControl id).muted
      else (playback.getSpeakerControl id).muted := by
  unfold Playback.setControl
  by_cases hzero : speakerid = 0
  · rw [if_pos hzero, if_neg (fun h => Bool.false_ne_true h.2)]
  rw [if_neg hzero]
  by_cases hfull : speakerid ∉ playback.speakercontrols ∧
      config.maxspeakers ≤ playback.speakercontrols.keys.length
  · rw [if_pos hfull, if_neg (fun h => Bool.false_ne_true h.2)]
  rw [if_neg hfull]
  by_cases hid : id = speakerid
  · rw [if_pos ⟨hid, rfl⟩, hid]
    simp only [Playback.getSpeakerControl, AList.lookup_insert, Option.getD_some]
  · rw [if_neg (fun h => hid h.1)]
    simp only [Playback.getSpeakerControl, AList.lookup_insert_ne hid]

end Controls

/-- The call is a control call. -/
def ClientCall.isControl : ClientCall → Bool
  | .setSpeakerMuted .. | .setSpeakerVolume .. => true
  | _ => false

/-- One processor has the session and the table of another. -/
structure SameControls (processor processor' : Processor α) : Prop where
  sessionid : processor'.gate.sessionid = processor.gate.sessionid
  speakercontrols : processor'.playback.speakercontrols = processor.playback.speakercontrols

theorem workerIteration_sameControls (processor : Processor α) (input : Iteration) :
    SameControls processor (processor.workerIteration input) := by
  refine ⟨congrArg Gate.sessionid (workerIteration_gate processor input), ?_⟩
  unfold Processor.workerIteration
  cases processor.worker with
  | looping loop =>
      dsimp only
      split_ifs
      · rfl
      · exact mixDue_speakercontrols.trans beforeMix_speakercontrols
  | none => rfl
  | spawned => rfl

namespace Client

variable {client : Client} {clock : Nat} {call : ClientCall} {id : UInt64}

/-- A call that sets a session leaves the client in it, with an empty table. -/
theorem run_newSession {sessionid : UInt64} (h : call.session = some sessionid) :
    (client.run clock call).gate.sessionid = sessionid ∧
      (client.run clock call).playback.speakercontrols = ∅ := by
  cases call with
  | setSession session generation playerid => exact ⟨Option.some.inj h, rfl⟩
  | clearSession => exact ⟨Option.some.inj h, rfl⟩
  | handleSessionPacket control =>
      simp only [ClientCall.session] at h
      simp only [run, Processor.handleSessionPacket]
      split_ifs at h ⊢ with hvalid henabled
      · exact ⟨Option.some.inj h, rfl⟩
      · exact ⟨Option.some.inj h, rfl⟩
  | _ => cases h

/-- Any other call but a control call keeps both. -/
theorem run_sameControls (hsession : call.session = none) (hcontrol : call.isControl = false) :
    SameControls client.processor (client.run clock call) := by
  cases call with
  | start setupOk =>
      simp only [run, Processor.start]
      split_ifs <;> exact ⟨rfl, rfl⟩
  | stop => exact ⟨rfl, rfl⟩
  | setEnabled enabled =>
      simp only [run, Processor.setEnabled]
      split_ifs <;> exact ⟨rfl, rfl⟩
  | setTransmitting transmitting =>
      simp only [run, Processor.setTransmitting]
      split_ifs <;> exact ⟨rfl, rfl⟩
  | setLocalMuted muted =>
      simp only [run, Processor.setLocalMuted]
      split_ifs <;> exact ⟨rfl, rfl⟩
  | setSession session generation playerid => cases hsession
  | clearSession => cases hsession
  | handleSessionPacket control =>
      simp only [ClientCall.session] at hsession
      simp only [run, Processor.handleSessionPacket]
      split_ifs at hsession ⊢ with hvalid
      exact ⟨rfl, rfl⟩
  | pushCaptured input =>
      simp only [run, Processor.pushCaptured]
      split_ifs <;> exact ⟨rfl, rfl⟩
  | workerPrelude now =>
      simp only [run, Processor.workerPrelude]
      split <;> exact ⟨rfl, rfl⟩
  | workerIteration input => exact workerIteration_sameControls _ _
  | popOutgoingPacket =>
      simp only [run, Processor.popOutgoingPacket]
      split_ifs <;> exact ⟨rfl, rfl⟩
  | popPlayback samplecount =>
      simp only [run, Processor.popPlayback]
      split_ifs <;> exact ⟨rfl, rfl⟩
  | pushIncomingPacket packet =>
      simp only [run, Processor.pushIncomingPacket]
      split_ifs <;> exact ⟨rfl, rfl⟩
  | setSpeakerMuted speakerid muted => cases hcontrol
  | setSpeakerVolume speakerid volume => cases hcontrol

/-- **A mute outlasts** every call that sets no session and does not undo it. -/
theorem run_muted (hsession : call.session = none) (hkept : call ≠ .setSpeakerMuted id false)
    (h : (client.processor.playback.getSpeakerControl id).muted = true) :
    ((client.run clock call).playback.getSpeakerControl id).muted = true := by
  cases hcontrol : call.isControl with
  | false =>
      rw [Playback.getSpeakerControl, (run_sameControls hsession hcontrol).speakercontrols]
      exact h
  | true =>
      cases call with
      | setSpeakerMuted speakerid muted =>
          refine (setControl_muted speakerid id (some muted) none).trans ?_
          split_ifs with hwrites
          · cases muted with
            | true => rfl
            | false => exact absurd (congrArg (ClientCall.setSpeakerMuted · false)
                hwrites.1.symm) hkept
          · exact h
      | setSpeakerVolume speakerid volume =>
          refine (setControl_muted speakerid id none (some volume)).trans ?_
          rw [Option.getD_none, ite_self]
          exact h
      | _ => cases hcontrol

end Client

/-! ## The law -/

/-- A client, its clock, and whether a mute of one speaker stands. -/
structure MutingClient where
  client : Client
  clock : Nat := 1
  stands : Bool := false

namespace MutingClient

abbrev processor (m : MutingClient) : Processor Sample := m.client.processor

/-- A mute stands from the call that set it with success until it is undone or
the client is in another session. -/
def standsAfter (id : UInt64) (m : MutingClient) : ClientCall → Bool
  | .setSpeakerMuted speakerid true =>
      m.stands || (speakerid == id && (m.processor.setSpeakerMuted speakerid true).2)
  | .setSpeakerMuted speakerid false => m.stands && speakerid != id
  | call =>
      m.stands && (m.client.run m.clock call).gate.sessionid == m.processor.gate.sessionid

/-- Every call is possible at any time. -/
def step (id : UInt64) (m : MutingClient) (call : ClientCall) : Option MutingClient :=
  some
    { client := m.client.perform m.clock call
      clock := m.clock + 1
      stands := m.standsAfter id call }

/-- A new client. -/
def start (config : ProcessorConfig) : MutingClient :=
  { client := { processor := Processor.create config } }

/-- While a mute stands, no session control is for the session that the client
is already in. -/
def NewSessions (m : MutingClient) (call : ClientCall) : Prop :=
  m.stands = true → call.session ≠ some m.processor.gate.sessionid

instance (m : MutingClient) (call : ClientCall) : Decidable (m.NewSessions call) :=
  inferInstanceAs (Decidable (_ → _))

variable {config : ProcessorConfig} {id : UInt64} {m : MutingClient} {call : ClientCall}

/-- A mute that stands after a call stood before and was not undone, or the
call has set it. -/
theorem standsAfter_cases (h : m.standsAfter id call = true) :
    (m.stands = true ∧ call ≠ .setSpeakerMuted id false) ∨
      (call = .setSpeakerMuted id true ∧ (m.processor.setSpeakerMuted id true).2 = true) := by
  cases call with
  | setSpeakerMuted speakerid muted =>
      cases muted with
      | true =>
          simp only [standsAfter, Bool.or_eq_true, Bool.and_eq_true, beq_iff_eq] at h
          rcases h with hstands | ⟨rfl, hset⟩
          · exact .inl ⟨hstands, nofun⟩
          · exact .inr ⟨rfl, hset⟩
      | false =>
          simp only [standsAfter, Bool.and_eq_true, bne_iff_ne] at h
          exact .inl ⟨h.1, fun heq => h.2 (ClientCall.setSpeakerMuted.inj heq).1⟩
  | _ => exact .inl ⟨(Bool.and_eq_true_iff.mp h).1, nofun⟩

/-- A mute stands after a session only if it is the session of before. -/
theorem standsAfter_session {sessionid : UInt64} (h : m.standsAfter id call = true)
    (hsession : call.session = some sessionid) :
    m.stands = true ∧ sessionid = m.processor.gate.sessionid := by
  have hsame : m.stands = true ∧
      (m.client.run m.clock call).gate.sessionid = m.processor.gate.sessionid := by
    cases call with
    | setSession session generation playerid =>
        simpa only [standsAfter, Bool.and_eq_true, beq_iff_eq] using h
    | clearSession => simpa only [standsAfter, Bool.and_eq_true, beq_iff_eq] using h
    | handleSessionPacket control =>
        simpa only [standsAfter, Bool.and_eq_true, beq_iff_eq] using h
    | _ => cases hsession
  exact ⟨hsame.1, (Client.run_newSession hsession).1.symm.trans hsame.2⟩

/-- The table has every mute that stands. -/
def Inv (id : UInt64) (m : MutingClient) : Prop :=
  m.stands = true → (m.processor.playback.getSpeakerControl id).muted = true

theorem Inv.step {t : MutingClient} (h : Inv id m) (hnew : m.NewSessions call)
    (hstep : step id m call = some t) : Inv id t := by
  obtain rfl := Option.some.inj hstep
  intro hstands
  cases hsession : call.session with
  | some sessionid =>
      obtain ⟨hstood, rfl⟩ := standsAfter_session hstands hsession
      exact absurd hsession (hnew hstood)
  | none =>
      rcases standsAfter_cases hstands with ⟨hstood, hkept⟩ | ⟨rfl, hset⟩
      · exact Client.run_muted hsession hkept (h hstood)
      · refine (setControl_muted id id (some true) none).trans ?_
        rw [if_pos ⟨rfl, hset⟩]
        rfl

/-- **A speaker mute lasts** in every run in which, while it stands, no session
control is for the session that the client is already in: no decoded frame of
the speaker enters a mix, and what the playback holds is the same whatever its
decoder returns. -/
theorem speaker_mute_lasts (h : Exec.ReachedAlong (step id) NewSessions (start config) m)
    (hstands : m.stands = true) (input : Iteration) :
    (∀ frame ∈ m.processor.mixedIn input, frame.1 ≠ id) ∧
      ∀ decode : UInt64 → Option (List Int),
        (∀ speakerid, speakerid ≠ id → decode speakerid = input.decode speakerid) →
          m.processor.workerIteration { input with decode := decode } =
            m.processor.workerIteration input := by
  have hmuted : (m.processor.playback.getSpeakerControl id).muted = true :=
    h.invariant (Inv id) (fun hfalse => by cases hfalse)
      (fun _ _ _ hinv hnew hstep => hinv.step hnew hstep) hstands
  have hother : ∀ speakerid,
      (m.processor.playback.getSpeakerControl speakerid).muted = false → speakerid ≠ id := by
    rintro _ hunmuted rfl
    exact Bool.false_ne_true (hunmuted.symm.trans hmuted)
  refine ⟨fun frame hframe => hother _ (Processor.mixedIn_unmuted hframe), fun decode hdecode => ?_⟩
  exact Processor.workerIteration_congr fun speakerid hunmuted =>
    hdecode speakerid (hother speakerid hunmuted)

/-- A mute set in one session stands through a change of the volume, a new
stream and the silence of its speaker; another speaker is heard. -/
theorem speaker_mute_lasts_kept :
    ∃ m : MutingClient, m.stands = true ∧
      let input : Iteration :=
        { decode := fun _ => some (List.replicate frameSamples 7), now := milliseconds 9080 }
      (m.processor.mixedIn input).map Prod.fst = [3] ∧
        ∀ frame ∈ m.processor.mixedIn input, frame.1 ≠ 2 := by
  let packet (speakerid : UInt64) (streamgeneration : UInt32) : DownlinkPacket :=
    { sessionid := 5, recipientgeneration := 1, speakerid := speakerid, speakergeneration := 1,
      streamgeneration := streamgeneration, sequence := 3, payload := [1] }
  let input : Iteration :=
    { decode := fun _ => some (List.replicate frameSamples 7), now := milliseconds 9080 }
  let run : List ClientCall :=
    [.start true, .workerPrelude 0, .setSession 5 1 9, .workerIteration {},
      .setSpeakerMuted 2 true, .pushIncomingPacket (packet 2 1), .workerIteration {},
      .setSpeakerVolume 2 2, .pushIncomingPacket (packet 2 2), .workerIteration {},
      .setLocalMuted true, .workerIteration { now := milliseconds 9000 },
      .pushIncomingPacket (packet 2 2), .pushIncomingPacket (packet 3 1),
      .workerIteration { arrival := fun _ => milliseconds 9000, now := milliseconds 9000 }]
  obtain ⟨m, hm, hheard⟩ : ∃ m, Exec.exec (step 2) (start {}) run = some m ∧
      (m.stands && (m.processor.mixedIn input).map Prod.fst == [3]) = true :=
    Exec.exec_any (by decide +kernel)
  have hnew : Exec.Along (step 2) NewSessions (start {}) run := by decide +kernel
  simp only [Bool.and_eq_true, beq_iff_eq] at hheard
  exact ⟨m, hheard.1, hheard.2, (speaker_mute_lasts ⟨run, hm, hnew⟩ hheard.1 input).1⟩

/-- **A new generation lifts the mute.**  A player is muted, the client gets a
new generation of the session it is in, and the player is heard. -/
theorem speaker_mute_lifted :
    ¬ ∀ m : MutingClient, Exec.Reached (step 2) (start {}) m → m.stands = true →
      ∀ input, ∀ frame ∈ m.processor.mixedIn input, frame.1 ≠ 2 := by
  let control (generation : UInt32) : Control :=
    ⟨{ enabled := true, sessionid := 5, membershipgeneration := generation, playerid := 9 }, none⟩
  let packet : DownlinkPacket :=
    { sessionid := 5, recipientgeneration := 2, speakerid := 2, speakergeneration := 1,
      streamgeneration := 1, sequence := 3, payload := [1] }
  let input : Iteration :=
    { decode := fun _ => some (List.replicate frameSamples 7), now := milliseconds 80 }
  let run : List ClientCall :=
    [.start true, .workerPrelude 0, .handleSessionPacket (control 1), .workerIteration {},
      .setSpeakerMuted 2 true, .handleSessionPacket (control 2), .pushIncomingPacket packet,
      .workerIteration {}]
  obtain ⟨m, hm, hheard⟩ : ∃ m, Exec.exec (step 2) (start {}) run = some m ∧
      (m.stands && (m.processor.mixedIn input).any (·.1 == 2)) = true :=
    Exec.exec_any (by decide +kernel)
  simp only [Bool.and_eq_true, List.any_eq_true, beq_iff_eq] at hheard
  obtain ⟨hstands, frame, hframe, hid⟩ := hheard
  intro hlaw
  exact hlaw m ⟨run, hm⟩ hstands input frame hframe hid

/-- The two controls are those of a player who changes teams. -/
example :
    let state (teamid : UInt64) : PeerState := { sessionid := 5, playerid := 9, teamid := teamid }
    let joined := setPeerState (addPeer {} 0 1 true).1 0 1 (state 1) true
    (joined.2.2.map (·.membershipgeneration),
      (setPeerState joined.1 0 1 (state 2) true).2.2.map (·.membershipgeneration)) =
      (some 1, some 2) := by
  decide

end MutingClient

/-! ## The condition is exact

Once the table is empty, nothing else keeps a speaker out: whatever the client
has done before, a worker that is started again takes its first downlink and
mixes it. -/

section Exact

variable {processor : Processor α} {loop : WorkerLoop} {frame : RemoteFrame}
  {config : ProcessorConfig}

/-- A worker in its loop that has observed the gates, with nothing left from
before. -/
structure Attentive (processor : Processor α) (loop : WorkerLoop) : Prop where
  worker : processor.worker = .looping loop
  running : processor.gate.running = true
  enabled : processor.gate.enabled = true
  even : processor.gate.sessionepoch % 2 = 0
  observed : processor.gate.sessionepoch = loop.observedsessionepoch
  captured : processor.gate.captureepoch = loop.observedcaptureepoch
  queue : processor.capture.queue = []
  speakers : processor.playback.speakers = ∅
  nextmix : loop.nextmix = 0

/-- The record of a speaker after its first frame. -/
def firstSpeaker (frame : RemoteFrame) : Speaker where
  speakerid := frame.speakerid
  speakergeneration := frame.speakergeneration
  streamgeneration := frame.streamgeneration
  jitter := [frame]
  hashighest := true
  highestsequence := frame.sequence
  firstarrival := 0
  lastactivity := 0
  nextplayout := 0

theorem addRemoteFrame_first (hspeakers : 0 < config.maxspeakers)
    (hjitter : 0 < config.jitterpackets) (frame : RemoteFrame) :
    addRemoteFrame config 0 true ∅ frame =
      (∅ : Speakers).insert frame.speakerid (firstSpeaker frame) := by
  have hroom : ¬ config.maxspeakers ≤ (∅ : Speakers).keys.length := not_le.mpr hspeakers
  unfold addRemoteFrame
  rw [AList.lookup_empty]
  dsimp only
  rw [if_neg hroom]
  simp [resetSpeaker, Speaker.addFrame, Speaker.outOfRange, Speaker.raiseHighest, Speaker.enqueue,
    firstSpeaker, hjitter.ne']

/-- A single frame is decoded once it has waited as long as the jitter buffer
wants to fill. -/
theorem firstSpeaker_mix (config : ProcessorConfig) (frame : RemoteFrame) :
    ((firstSpeaker frame).mix config
      (milliseconds (frameMilliseconds * config.initialjitterpackets))).2 =
        some (.frame frame) := by
  simp [Speaker.mix, firstSpeaker, Speaker.startPlayout, Speaker.playSlot, oldestIndex, oldestFrom]

theorem mixInputs_first {playback : Playback}
    (hspeakers : playback.speakers = (∅ : Speakers).insert frame.speakerid (firstSpeaker frame))
    (hunmuted : (playback.getSpeakerControl frame.speakerid).muted = false) :
    ∃ input ∈ mixInputs config (milliseconds (frameMilliseconds * config.initialjitterpackets))
      (fun _ => some []) playback, input.1 = frame.speakerid := by
  refine ⟨(frame.speakerid, applyVolume (playback.getSpeakerControl frame.speakerid) []), ?_, rfl⟩
  refine List.mem_filterMap.mpr ⟨(frame.speakerid, .frame frame), ?_, ?_⟩
  · refine List.mem_filterMap.mpr ⟨⟨frame.speakerid, firstSpeaker frame⟩, ?_, ?_⟩
    · rw [hspeakers]
      exact AList.mem_lookup_iff.mp (AList.lookup_insert _)
    · rw [firstSpeaker_mix]
      rfl
  · dsimp only
    rw [hunmuted]
    rfl

namespace Attentive

/-- The worker takes the one frame that waits. -/
theorem beforeMix_eq (h : Attentive processor loop) {input : Iteration}
    (hincoming : processor.playback.incoming = [frame])
    (hepoch : frame.sessionepoch = processor.gate.sessionepoch) :
    ∃ capture, processor.beforeMix loop input =
      ({ processor with
          capture := capture
          playback := { processor.playback with
            incoming := []
            speakers :=
              addRemoteFrame processor.config (input.arrival 0) (input.setupOk 0) ∅ frame } },
        loop) := by
  have hsession : processor.observeSession loop input = (processor, loop) :=
    if_neg (not_not.mpr h.observed)
  have hcapture : processor.observeCapture loop = (processor, loop) :=
    if_neg (not_not.mpr h.captured)
  have htaken : frame.sessionepoch = loop.observedsessionepoch ∧
      frame.sessionepoch = processor.gate.sessionepoch ∧ processor.gate.enabled = true :=
    ⟨hepoch.trans h.observed, hepoch, h.enabled⟩
  have hincoming : processor.processIncoming input loop.observedsessionepoch =
      { processor with
        playback := { processor.playback with
          incoming := []
          speakers :=
            addRemoteFrame processor.config (input.arrival 0) (input.setupOk 0) ∅ frame } } := by
    unfold Processor.processIncoming
    rw [hincoming, h.speakers]
    simp only [List.zipIdx_cons, List.zipIdx_nil, List.foldl_cons, List.foldl_nil, if_pos htaken]
  unfold Processor.beforeMix
  rw [hsession]
  dsimp only
  rw [hcapture]
  dsimp only
  rw [hincoming]
  unfold Processor.encodeCaptured
  dsimp only
  rw [h.queue]
  split_ifs <;> exact ⟨_, rfl⟩

/-- It mixes the frame, unless the table has its speaker muted. -/
theorem hears (h : Attentive processor loop) (hspeakers : 0 < processor.config.maxspeakers)
    (hjitter : 0 < processor.config.jitterpackets)
    (hincoming : processor.playback.incoming = [frame])
    (hepoch : frame.sessionepoch = processor.gate.sessionepoch)
    (hunmuted : (processor.playback.getSpeakerControl frame.speakerid).muted = false) :
    ∃ input, ∃ mixed ∈ processor.mixedIn input, mixed.1 = frame.speakerid := by
  let input : Iteration :=
    { decode := fun _ => some []
      now := milliseconds (frameMilliseconds * processor.config.initialjitterpackets) }
  have hon : ¬ (processor.gate.running = false ∨ processor.gate.sessionepoch % 2 ≠ 0) := by
    rw [h.running, h.even]
    decide
  have hdue : loop.nextmix ≤ input.now := by
    rw [h.nextmix]
    exact Int.mul_nonneg (Int.mul_nonneg (by decide) (Int.natCast_nonneg _)) (by decide)
  obtain ⟨capture, hbefore⟩ := @beforeMix_eq _ _ _ _ h input hincoming hepoch
  refine ⟨input, ?_⟩
  unfold Processor.mixedIn
  rw [h.worker]
  dsimp only
  rw [if_neg hon, hbefore]
  dsimp only
  rw [if_pos hdue]
  exact mixInputs_first (addRemoteFrame_first hspeakers hjitter frame) hunmuted

/-- A downlink that the gate accepts waits for the worker. -/
theorem push (h : Attentive processor loop) (hempty : processor.playback.incoming = [])
    {packet : DownlinkPacket} (haccepts : processor.gate.accepts packet = true) :
    ∃ frame : RemoteFrame, frame.speakerid = packet.speakerid ∧
      frame.sessionepoch = processor.gate.sessionepoch ∧
      (processor.pushIncomingPacket packet).1 =
        { processor with playback := { processor.playback with incoming := [frame] } } ∧
      Attentive (processor.pushIncomingPacket packet).1 loop := by
  refine ⟨{ flags := packet.flags
            sessionepoch := processor.gate.sessionepoch
            speakerid := packet.speakerid
            speakergeneration := packet.speakergeneration
            streamgeneration := packet.streamgeneration
            sequence := packet.sequence
            sampleposition := packet.sampleposition
            payload := packet.payload }, rfl, rfl, ?_⟩
  unfold Processor.pushIncomingPacket
  rw [if_pos haccepts, hempty]
  refine ⟨?_, h.worker, h.running, h.enabled, h.even, h.observed, h.captured, h.queue,
    h.speakers, h.nextmix⟩
  dsimp only
  rw [List.drop_nil, ite_self, List.nil_append]

end Attentive

/-- The worker is enabled, stopped and started again. -/
def restarted (processor : Processor α) : Processor α :=
  ((processor.setEnabled true).stop.start true).1.workerPrelude 0

theorem restarted_attentive (heven : processor.gate.sessionepoch % 2 = 0) :
    (∃ loop, Attentive (restarted processor) loop) ∧
      (restarted processor).config = processor.config ∧
      (restarted processor).gate.sessionid = processor.gate.sessionid ∧
      (restarted processor).gate.membershipgeneration = processor.gate.membershipgeneration ∧
      (restarted processor).gate.localplayerid = processor.gate.localplayerid ∧
      (restarted processor).playback.incoming = [] ∧
      (restarted processor).playback.speakercontrols = processor.playback.speakercontrols := by
  have hstarted : ∀ p : Processor α, p.gate.enabled = true → p.gate.sessionepoch % 2 = 0 →
      ∃ loop, Attentive ((p.stop.start true).1.workerPrelude 0) loop := fun p hon heven =>
    ⟨_, rfl, rfl, hon, heven, rfl, rfl, rfl, rfl, rfl⟩
  unfold restarted Processor.setEnabled
  split_ifs with hon
  · exact ⟨hstarted processor hon heven, rfl, rfl, rfl, rfl, rfl, rfl⟩
  · exact ⟨hstarted _ rfl ((Nat.add_mod_right _ 2).trans heven), rfl, rfl, rfl, rfl, rfl, rfl⟩

end Exact

namespace MutingClient

variable {id : UInt64} {m n : MutingClient} {call : ClientCall}

/-- Calls that set no session and are no control calls keep a mute standing. -/
theorem stands_of_quiet {calls : List ClientCall}
    (hquiet : ∀ call ∈ calls, call.session = none ∧ call.isControl = false)
    (h : Exec.exec (step id) m calls = some n) : n.stands = m.stands := by
  refine Exec.ReachedAlong.invariant ⟨calls, h, Exec.along_of_forall hquiet m⟩
    (fun n => n.stands = m.stands) rfl fun s call t hs hcall hstep => ?_
  obtain rfl := Option.some.inj hstep
  obtain ⟨hsession, hcontrol⟩ := hcall
  have hsame : (s.client.run s.clock call).gate.sessionid = s.processor.gate.sessionid :=
    (Client.run_sameControls hsession hcontrol).sessionid
  refine Eq.trans ?_ hs
  cases call with
  | setSpeakerMuted speakerid muted => cases hcontrol
  | _ => exact (congrArg (s.stands && ·) (beq_iff_eq.mpr hsame)).trans (Bool.and_true _)

/-- **The condition is exact.**  In every state between calls, a control that
opens the session of another player than the speaker leaves nothing that keeps
the speaker out: after five more calls, none of them about sessions or
speakers, a frame of it is mixed, and a mute stands that stood before if the
control was for the session that the client was already in. -/
theorem heard_after_control (heven : m.processor.gate.sessionepoch % 2 = 0)
    (hspeakers : 0 < m.processor.config.maxspeakers)
    (hjitter : 0 < m.processor.config.jitterpackets) {control : Control}
    (hvalid : validateTeamVoiceSessionPacket control.packet = .none)
    (henabled : control.packet.enabled = true) (hid : id ≠ 0)
    (hother : control.packet.playerid ≠ id) :
    ∃ calls n, Exec.exec (step id) m (.handleSessionPacket control :: calls) = some n ∧
      (∀ call ∈ calls, call.session = none ∧ call.isControl = false) ∧
      (m.stands = true → control.packet.sessionid = m.processor.gate.sessionid →
        n.stands = true) ∧
      ∃ input, ∃ frame ∈ n.processor.mixedIn input, frame.1 = id := by
  obtain ⟨hversion, hsession, hgeneration, -⟩ :=
    (validateTeamVoiceSessionPacket_enabled henabled).mp hvalid
  let packet : DownlinkPacket :=
    { sessionid := control.packet.sessionid
      recipientgeneration := control.packet.membershipgeneration
      speakerid := id
      speakergeneration := 1
      streamgeneration := 1
      payload := [1] }
  let calls : List ClientCall :=
    [.setEnabled true, .stop, .start true, .workerPrelude 0, .pushIncomingPacket packet]
  let entered := m.processor.setSession control.packet.sessionid
    control.packet.membershipgeneration control.packet.playerid
  have hentered : m.processor.handleSessionPacket control.packet = entered := by
    unfold Processor.handleSessionPacket
    rw [if_neg (not_not.mpr hvalid), henabled, if_neg (by decide)]
  have hquiet : ∀ call ∈ calls, call.session = none ∧ call.isControl = false := by
    simp [calls, ClientCall.session, ClientCall.isControl]
  obtain ⟨n, hn, hprocessor⟩ : ∃ n,
      Exec.exec (step id) m (.handleSessionPacket control :: calls) = some n ∧
        n.processor =
          ((restarted (m.processor.handleSessionPacket control.packet)).pushIncomingPacket
            packet).1 :=
    ⟨_, rfl, rfl⟩
  refine ⟨calls, n, hn, hquiet, fun hstands hsame => ?_, ?_⟩
  · obtain ⟨first, hfirst, hrest⟩ := Exec.exec_cons_some hn
    obtain rfl := Option.some.inj hfirst
    rw [stands_of_quiet hquiet hrest]
    show (m.stands && (m.processor.handleSessionPacket control.packet).gate.sessionid ==
      m.processor.gate.sessionid) = true
    rw [hstands, hentered, Bool.true_and, beq_iff_eq]
    exact hsame
  · rw [hentered] at hprocessor
    obtain ⟨⟨loop, hattentive⟩, hconfig, hsid, hgen, hplayer, hincoming, hcontrols⟩ :=
      @restarted_attentive _ entered ((Nat.add_mod_right _ 2).trans heven)
    have hpacket : validateTeamVoiceDownlinkPacket packet = .none := by
      have hflags : (0 : UInt8) &&& ~~~validVoiceFlags = 0 := by decide
      have hone : (1 : UInt32) ≠ 0 := by decide
      exact validateTeamVoiceDownlinkPacket_none.mpr
        ⟨rfl, hflags, hsession, hgeneration, hone, hone, hid, rfl⟩
    have haccepts : (restarted entered).gate.accepts packet = true :=
      decide_eq_true ⟨hpacket, hattentive.even, hattentive.running, hsid.symm, hgen.symm,
        fun hown => hother (hplayer.symm.trans hown.symm), hattentive.enabled⟩
    obtain ⟨frame, hspeaker, hepoch, hpushed, hready⟩ := hattentive.push hincoming haccepts
    rw [← hprocessor] at hpushed hready
    have hsame : n.processor.config = m.processor.config :=
      (congrArg Processor.config hpushed).trans hconfig
    have hunmuted : (n.processor.playback.getSpeakerControl frame.speakerid).muted = false := by
      have htable : n.processor.playback.speakercontrols = ∅ :=
        (congrArg (·.playback.speakercontrols) hpushed).trans hcontrols
      rw [Playback.getSpeakerControl, htable]
      rfl
    obtain ⟨input, mixed, hmixed, hheard⟩ := hready.hears (hsame ▸ hspeakers) (hsame ▸ hjitter)
      (congrArg (·.playback.incoming) hpushed)
      (hepoch.trans (congrArg (·.gate.sessionepoch) hpushed).symm) hunmuted
    exact ⟨input, mixed, hmixed, hheard.trans hspeaker⟩

end MutingClient

end Voice
