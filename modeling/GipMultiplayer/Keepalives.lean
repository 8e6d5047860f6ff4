import GipMultiplayer.DisconnectOnce
import GipMultiplayer.ResetTimer
import Mathlib.Algebra.BigOperators.Group.List.Lemmas
import Mathlib.Tactic.NormNum

/-!
# Keepalives

The clocks of `GameBackend::update`.  A keepalive is sent when more than a
second has been added to its timer, but a frame of more than a quarter of a
second resets the timer and adds nothing.  A game that runs at three frames a
second sends no keepalive at all, and the other side gives it up.

* `GameBackend.update` — the clocks in one frame;
* `GameBackend.update_tick` — the keepalive timer, while nobody is notified;
* `GameBackend.keepalives_flow` — when a run of frames sends a keepalive;
* `GameBackend.keepalives_dry` — frames of 0.3 s send none.
-/

namespace GameBackend

open Remote (stalledFrameSeconds silenceSeconds)

/-- The clocks of a backend, in seconds. -/
structure Clocks where
  isServer : Bool
  keepAliveTimer : ℚ := 0
  timeSinceLastKeepAlive : ℚ := 0
  pingTimer : ℚ := 0
  disconnectNotified : Bool := false

/-- The packets that the clocks send. -/
inductive Sent
  | keepAlive
  | ping
deriving DecidableEq

/-- A frame: its length, the packets in the queue and the `notifyDisconnected`
tasks among the main-thread tasks. -/
structure Frame where
  deltaTime : ℚ
  packets : Nat := 0
  tasks : Nat := 0

/-- What `onPacketReceived` does to the clocks. -/
def onPacketReceived (clocks : Clocks) : Clocks := { clocks with timeSinceLastKeepAlive := 0 }

/-- The task of `notifyDisconnected`. -/
def notifyDisconnected (clocks : Clocks) : Clocks := { clocks with disconnectNotified := true }

/-- The keepalive timer. -/
def advanceKeepAlive (clocks : Clocks) (deltaTime : ℚ) : Clocks × List Sent :=
  if clocks.disconnectNotified = false then
    if 1 < clocks.keepAliveTimer + deltaTime then
      ({ clocks with keepAliveTimer := 0 }, [.keepAlive])
    else ({ clocks with keepAliveTimer := clocks.keepAliveTimer + deltaTime }, [])
  else (clocks, [])

/-- The ping timer. -/
def advancePing (clocks : Clocks) (deltaTime : ℚ) : Clocks × List Sent :=
  if clocks.disconnectNotified = false then
    if 1 ≤ clocks.pingTimer + deltaTime then ({ clocks with pingTimer := 0 }, [.ping])
    else ({ clocks with pingTimer := clocks.pingTimer + deltaTime }, [])
  else (clocks, [])

/-- The clocks of a client. -/
def advanceSilence (clocks : Clocks) (deltaTime : ℚ) : Clocks × List Sent :=
  let silent := { clocks with timeSinceLastKeepAlive := clocks.timeSinceLastKeepAlive + deltaTime }
  if silenceSeconds < silent.timeSinceLastKeepAlive ∧ silent.disconnectNotified = false then
    ({ silent with disconnectNotified := true }, [])
  else advancePing silent deltaTime

/-- `GameBackend::update`, as far as the clocks go: the batch, the tasks, the
stall, the keepalive and, on a client, the silence and the ping. -/
def update (clocks : Clocks) (frame : Frame) : Clocks × List Sent :=
  let received := onPacketReceived^[frame.packets] clocks
  let clocks := notifyDisconnected^[frame.tasks] received
  if stalledFrameSeconds < frame.deltaTime then
    ({ clocks with keepAliveTimer := 0, timeSinceLastKeepAlive := 0, pingTimer := 0 }, [])
  else
    let (clocks, sent) := advanceKeepAlive clocks frame.deltaTime
    if clocks.isServer = false then
      ((advanceSilence clocks frame.deltaTime).1,
        sent ++ (advanceSilence clocks frame.deltaTime).2)
    else (clocks, sent)

/-- Frames in a row, and all that they send. -/
def run (clocks : Clocks) : List Frame → Clocks × List Sent
  | [] => (clocks, [])
  | frame :: frames =>
      ((run (update clocks frame).1 frames).1,
        (update clocks frame).2 ++ (run (update clocks frame).1 frames).2)

/-- What a frame is to the keepalive timer: an interruption when it has stalled. -/
def Frame.tick (frame : Frame) : Option ℚ :=
  if stalledFrameSeconds < frame.deltaTime then none else some frame.deltaTime

variable {clocks : Clocks} {frame : Frame} {frames : List Frame}

/-! ## One frame -/

/-- Packets do not touch the keepalive timer. -/
theorem receive_eq (n : Nat) (clocks : Clocks) :
    (onPacketReceived^[n] clocks).keepAliveTimer = clocks.keepAliveTimer ∧
      (onPacketReceived^[n] clocks).disconnectNotified = clocks.disconnectNotified := by
  induction n generalizing clocks with
  | zero => exact ⟨rfl, rfl⟩
  | succ n ih => exact ih (onPacketReceived clocks)

/-- While nobody is notified there are no such tasks. -/
theorem tasks_eq {n : Nat} (h : (notifyDisconnected^[n] clocks).disconnectNotified = false) :
    notifyDisconnected^[n] clocks = clocks := by
  cases n with
  | zero => rfl
  | succ n =>
      rw [Function.iterate_succ_apply'] at h
      cases h

/-- The silence is not the keepalive timer's business. -/
theorem advanceSilence_keeps (clocks : Clocks) (deltaTime : ℚ) :
    (advanceSilence clocks deltaTime).1.keepAliveTimer = clocks.keepAliveTimer ∧
      .keepAlive ∉ (advanceSilence clocks deltaTime).2 ∧
      ((advanceSilence clocks deltaTime).1.disconnectNotified = false →
        clocks.disconnectNotified = false) := by
  unfold advanceSilence advancePing
  dsimp only
  split_ifs <;> simp_all

/-- The keepalive timer while nobody is notified. -/
theorem advanceKeepAlive_eq (h : clocks.disconnectNotified = false) (deltaTime : ℚ) :
    (advanceKeepAlive clocks deltaTime).1.keepAliveTimer =
        (ResetTimer.step 1 clocks.keepAliveTimer (some deltaTime)).1 ∧
      (.keepAlive ∈ (advanceKeepAlive clocks deltaTime).2 ↔
        (ResetTimer.step 1 clocks.keepAliveTimer (some deltaTime)).2 = true) := by
  unfold advanceKeepAlive
  rw [if_pos h]
  rcases lt_or_ge 1 (clocks.keepAliveTimer + deltaTime) with hlate | hearly
  · rw [if_pos hlate, ResetTimer.step_of_lt hlate]
    exact ⟨rfl, by simp⟩
  · rw [if_neg hearly.not_gt, ResetTimer.step_of_le hearly]
    exact ⟨rfl, by simp⟩

theorem advanceKeepAlive_disconnectNotified (clocks : Clocks) (deltaTime : ℚ) :
    (advanceKeepAlive clocks deltaTime).1.disconnectNotified = clocks.disconnectNotified := by
  unfold advanceKeepAlive
  split_ifs <;> rfl

/-- **One frame is one tick of the timer**, as long as nobody is notified. -/
theorem update_tick (h : (update clocks frame).1.disconnectNotified = false) :
    clocks.disconnectNotified = false ∧
      (update clocks frame).1.keepAliveTimer =
        (ResetTimer.step 1 clocks.keepAliveTimer frame.tick).1 ∧
      (.keepAlive ∈ (update clocks frame).2 ↔
        (ResetTimer.step 1 clocks.keepAliveTimer frame.tick).2 = true) := by
  obtain ⟨htimer, hnotified⟩ := receive_eq frame.packets clocks
  unfold update at h ⊢
  unfold Frame.tick
  dsimp only at h ⊢
  generalize onPacketReceived^[frame.packets] clocks = received at htimer hnotified h ⊢
  rw [← htimer, ← hnotified]
  by_cases hstalled : stalledFrameSeconds < frame.deltaTime
  · rw [if_pos hstalled] at h ⊢
    rw [if_pos hstalled]
    have hbefore : (notifyDisconnected^[frame.tasks] received).disconnectNotified = false := h
    have htasks := tasks_eq hbefore
    rw [htasks] at hbefore ⊢
    exact ⟨hbefore, rfl, by simp [ResetTimer.step]⟩
  · rw [if_neg hstalled] at h ⊢
    rw [if_neg hstalled]
    have hbefore : (notifyDisconnected^[frame.tasks] received).disconnectNotified = false := by
      rw [← advanceKeepAlive_disconnectNotified _ frame.deltaTime]
      split_ifs at h with hclient
      · exact (advanceSilence_keeps _ _).2.2 h
      · exact h
    have htasks := tasks_eq hbefore
    rw [htasks] at hbefore ⊢
    obtain ⟨hadvance, hsent⟩ := advanceKeepAlive_eq hbefore frame.deltaTime
    refine ⟨hbefore, ?_⟩
    split_ifs with hclient
    · obtain ⟨hsame, hnone, -⟩ :=
        advanceSilence_keeps (advanceKeepAlive received frame.deltaTime).1 frame.deltaTime
      refine ⟨hsame.trans hadvance, ?_⟩
      rw [List.mem_append, or_iff_left hnone]
      exact hsent
    · exact ⟨hadvance, hsent⟩

/-- A stalled frame without tasks sends nothing. -/
theorem update_stalled (hstalled : stalledFrameSeconds < frame.deltaTime)
    (htasks : frame.tasks = 0) :
    (update clocks frame).1.disconnectNotified = clocks.disconnectNotified ∧
      (update clocks frame).2 = [] := by
  have hnotified := (receive_eq frame.packets clocks).2
  unfold update
  dsimp only
  rw [if_pos hstalled, htasks]
  exact ⟨hnotified, rfl⟩

/-! ## Frames in a row -/

/-- Who has been notified stays notified. -/
theorem run_unnotified (h : (run clocks frames).1.disconnectNotified = false) :
    clocks.disconnectNotified = false := by
  induction frames generalizing clocks with
  | nil => exact h
  | cons frame frames ih => exact (update_tick (ih h)).1

/-- Time passes. -/
theorem tick_nonneg (hpos : 0 < frame.deltaTime) : ∀ time ∈ frame.tick, 0 ≤ time := by
  intro time htime
  unfold Frame.tick at htime
  split_ifs at htime
  · cases htime
  · obtain rfl := Option.some.inj htime
    exact hpos.le

/-- What a run of frames does to the timer, as long as nobody is notified. -/
theorem run_tick (hvalid : ResetTimer.Valid 1 clocks.keepAliveTimer)
    (hpos : ∀ frame ∈ frames, 0 < frame.deltaTime)
    (h : (run clocks frames).1.disconnectNotified = false) :
    ResetTimer.Valid 1 (run clocks frames).1.keepAliveTimer ∧
      (.keepAlive ∈ (run clocks frames).2 ↔
        ResetTimer.Fires 1 clocks.keepAliveTimer (frames.map Frame.tick)) := by
  induction frames generalizing clocks with
  | nil => exact ⟨hvalid, iff_of_false List.not_mem_nil id⟩
  | cons frame frames ih =>
      have hafter : (update clocks frame).1.disconnectNotified = false := run_unnotified h
      obtain ⟨-, htimer, hsent⟩ := update_tick hafter
      have hnext : ResetTimer.Valid 1 (update clocks frame).1.keepAliveTimer := by
        rw [htimer]
        exact hvalid.step (tick_nonneg (hpos frame List.mem_cons_self))
      obtain ⟨hend, hrest⟩ :=
        ih hnext (fun frame hframe => hpos frame (List.mem_cons_of_mem _ hframe)) h
      refine ⟨hend, ?_⟩
      rw [htimer] at hrest
      rw [run, List.mem_append, hsent, hrest, List.map_cons, ResetTimer.Fires]

/-- Stalled frames without tasks send nothing. -/
theorem run_stalled (hstalled : ∀ frame ∈ frames, stalledFrameSeconds < frame.deltaTime)
    (htasks : ∀ frame ∈ frames, frame.tasks = 0) :
    (run clocks frames).1.disconnectNotified = clocks.disconnectNotified ∧
      (run clocks frames).2 = [] := by
  induction frames generalizing clocks with
  | nil => exact ⟨rfl, rfl⟩
  | cons frame frames ih =>
      have hstall : (update clocks frame).1.disconnectNotified = clocks.disconnectNotified ∧
          (update clocks frame).2 = [] :=
        update_stalled (hstalled frame List.mem_cons_self) (htasks frame List.mem_cons_self)
      obtain ⟨hnotified, hsent⟩ := hstall
      obtain ⟨hend, hrest⟩ := @ih (update clocks frame).1
        (fun frame hframe => hstalled frame (List.mem_cons_of_mem _ hframe))
        (fun frame hframe => htasks frame (List.mem_cons_of_mem _ hframe))
      constructor
      · exact hend.trans hnotified
      · rw [run, hsent, hrest]
        exact List.append_nil []

/-! ## The law -/

/-- The length of a run of frames. -/
def total (frames : List Frame) : ℚ := (frames.map Frame.deltaTime).sum

theorem run_append (clocks : Clocks) (before after : List Frame) :
    run clocks (before ++ after) =
      ((run (run clocks before).1 after).1,
        (run clocks before).2 ++ (run (run clocks before).1 after).2) := by
  induction before generalizing clocks with
  | nil => rfl
  | cons frame before ih => simp only [List.cons_append, run, ih, List.append_assoc]

/-- The keepalive of any run of frames that follows another. -/
theorem keepAlive_sent_iff {isServer : Bool} {history window : List Frame}
    (hpos : ∀ frame ∈ history ++ window, 0 < frame.deltaTime)
    (hnotified : (run { isServer } (history ++ window)).1.disconnectNotified = false) :
    .keepAlive ∈ (run (run { isServer } history).1 window).2 ↔
      ResetTimer.Charged 1 (run { isServer } history).1.keepAliveTimer
        (window.map Frame.tick) := by
  rw [run_append] at hnotified
  have hstart : ResetTimer.Valid (1 : ℚ) ({ isServer } : Clocks).keepAliveTimer :=
    ResetTimer.Valid.zero zero_le_one
  obtain ⟨hvalid, -⟩ := run_tick hstart
    (fun frame hframe => hpos frame (List.mem_append_left _ hframe)) (run_unnotified hnotified)
  obtain ⟨-, hsent⟩ := run_tick hvalid
    (fun frame hframe => hpos frame (List.mem_append_right _ hframe)) hnotified
  rw [hsent]
  apply ResetTimer.fires_iff_charged hvalid
  intro tick htick
  obtain ⟨frame, hframe, rfl⟩ := List.mem_map.mp htick
  exact tick_nonneg (hpos frame (List.mem_append_right _ hframe))

/-- **A silence of more than eight seconds** is broken by a keepalive exactly when
more than a second passes in it between two stalls; at its start the time since
the last stall or keepalive counts. -/
theorem keepalives_flow (isServer : Bool) (frames : List Frame)
    (hdeltas : ∀ frame ∈ frames, 0 < frame.deltaTime ∧ frame.deltaTime ≤ 1)
    (hnotified : (run { isServer } frames).1.disconnectNotified = false) :
    ∀ history window rest, frames = history ++ window ++ rest → silenceSeconds < total window →
      (.keepAlive ∈ (run (run { isServer } history).1 window).2 ↔
        ResetTimer.Charged 1 (run { isServer } history).1.keepAliveTimer
          (window.map Frame.tick)) := by
  rintro history window rest rfl -
  apply keepAlive_sent_iff
  · intro frame hframe
    exact (hdeltas frame (List.mem_append_left _ hframe)).1
  · rw [run_append] at hnotified
    exact run_unnotified hnotified

/-- A host at five frames a second. -/
theorem keepalives_flow_five :
    .keepAlive ∈ (run (run { isServer := true } []).1 (List.replicate 41 ⟨1 / 5, 0, 0⟩)).2 := by
  have hfive : ∀ frame ∈ List.replicate 41 (⟨1 / 5, 0, 0⟩ : Frame),
      0 < frame.deltaTime ∧ frame.deltaTime ≤ 1 := by
    intro frame hframe
    obtain rfl := List.eq_of_mem_replicate hframe
    norm_num
  have hlaw := keepalives_flow true (List.replicate 41 ⟨1 / 5, 0, 0⟩) hfive (by decide +kernel)
    [] (List.replicate 41 ⟨1 / 5, 0, 0⟩) [] rfl (by norm_num [total, silenceSeconds])
  refine hlaw.mpr ⟨[], List.replicate 41 (1 / 5), [], ?_, .inl ?_⟩
  · decide +kernel
  · norm_num

/-- **Frames of 0.3 s send no keepalive**, however many there are. -/
theorem keepalives_dry :
    ¬ ∀ (isServer : Bool) (frames : List Frame),
      (∀ frame ∈ frames, 0 < frame.deltaTime ∧ frame.deltaTime ≤ 1) →
      (run { isServer } frames).1.disconnectNotified = false →
      ∀ history window rest, frames = history ++ window ++ rest →
        silenceSeconds < total window →
        .keepAlive ∈ (run (run { isServer } history).1 window).2 := by
  intro hall
  have hslow : ∀ frame ∈ List.replicate 27 (⟨3 / 10, 0, 0⟩ : Frame),
      frame = ⟨3 / 10, 0, 0⟩ := fun frame => List.eq_of_mem_replicate
  obtain ⟨hnotified, hsent⟩ := @run_stalled { isServer := true } _
    (fun frame hframe => by rw [hslow frame hframe]; norm_num [stalledFrameSeconds])
    (fun frame hframe => by rw [hslow frame hframe])
  have hone := hall true (List.replicate 27 ⟨3 / 10, 0, 0⟩)
    (fun frame hframe => by rw [hslow frame hframe]; norm_num) hnotified
    [] (List.replicate 27 ⟨3 / 10, 0, 0⟩) [] rfl (by norm_num [total, silenceSeconds])
  rw [run, hsent] at hone
  cases hone

end GameBackend
