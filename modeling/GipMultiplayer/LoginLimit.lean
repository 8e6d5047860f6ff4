import GipMultiplayer.MasterAccounts

/-!
# Login attempts of one address

Login handlers of one IP address on several connections.  Each handler asks the
rate limiter whether the address is locked out, verifies the password if the
packet and the database let it, and records the failure; the handlers of other
connections run in between.  The log says in which order passwords were
verified and failures recorded, and when.

* `login_actions` — one login handler is such a sequence of steps;
* `Limited` — the law;
* `Spare` — the condition on each check that lets an attempt pass;
* `login_limited` — the law in every run under the condition;
* `login_race` — eleven handlers that check before the first one fails.
-/

namespace Master

/-- A handler that has passed the check. -/
structure Attempt where
  connection : Nat
  verified : Bool := false
  deriving DecidableEq, Repr

/-- A password was verified, or a failure recorded. -/
inductive LoginEvent
  | verified (time : Nat)
  | failed (time : Nat)
  deriving DecidableEq, Repr

/-- The limiter, the handlers past the check, and the log. -/
structure LoginServer where
  clock : Nat := 0
  tracker : RateLimiter := ∅
  attempts : List Attempt := []
  log : List LoginEvent := []
  deriving DecidableEq

/-- What happens: time passes, or the handler of a connection makes a step. -/
inductive LoginAction
  | wait (d : Nat)
  | check (c : Nat)
  | verify (c : Nat)
  | fail (c : Nat)
  | leave (c : Nat)
  | succeed (c : Nat)
  deriving DecidableEq, Repr

/-- The attempt of a connection. -/
def Attempt.isOf (c : Nat) (attempt : Attempt) : Bool := attempt.connection == c

/-- The attempt of a connection, its password not verified yet. -/
def Attempt.isUnverified (c : Nat) (attempt : Attempt) : Bool :=
  attempt.isOf c && !attempt.verified

namespace LoginServer

/-- One step.  A handler that is locked out is done; one that has verified a
password records the outcome. -/
def step (ip : Bytes) (s : LoginServer) : LoginAction → Option LoginServer
  | .wait d => some { s with clock := s.clock + d }
  | .check c =>
      if s.attempts.any (·.isOf c) then none
      else
        match s.tracker.isLockedOut s.clock ip with
        | some _ => some s
        | none => some { s with attempts := s.attempts ++ [{ connection := c }] }
  | .verify c =>
      if s.attempts.any (·.isUnverified c) then
        some { s with
          attempts := s.attempts.map fun a => if a.isOf c then { a with verified := true } else a
          log := s.log ++ [.verified s.clock] }
      else none
  | .fail c =>
      if s.attempts.any (·.isOf c) then
        some { s with
          attempts := s.attempts.eraseP (·.isOf c)
          tracker := s.tracker.recordFailedAttempt s.clock ip
          log := s.log ++ [.failed s.clock] }
      else none
  | .leave c =>
      if s.attempts.any (·.isUnverified c) then
        some { s with attempts := s.attempts.eraseP (·.isUnverified c) }
      else none
  | .succeed c =>
      if s.attempts.any (fun a => a.isOf c && a.verified) then
        some { s with
          attempts := s.attempts.eraseP fun a => a.isOf c && a.verified
          tracker := s.tracker.recordSuccess ip }
      else none

/-- The steps a login handler can make. -/
def handlerRuns (c : Nat) : List (List LoginAction) :=
  [[.check c], [.check c, .leave c], [.check c, .fail c], [.check c, .verify c, .fail c],
    [.check c, .verify c, .succeed c]]

/-- **A login handler on its own** makes these steps. -/
theorem login_actions (crypto : Crypto) (env : Env) (db : Option Database) (remoteAddress : Bytes)
    (p : UserLogin) (c : Nat) {s : LoginServer} (hidle : s.attempts = []) :
    ∃ actions ∈ handlerRuns c, ∃ log, Exec.exec (step (clientIp remoteAddress)) s actions =
      some { s with
        tracker := (login crypto env s.clock s.tracker db remoteAddress p).tracker, log } := by
  obtain ⟨clock, tracker, attempts, log⟩ := s
  obtain rfl : attempts = [] := hidle
  unfold login handlerRuns
  dsimp only
  split
  · rename_i lockMsg hlocked
    refine ⟨[.check c], by simp, log, ?_⟩
    simp [step, hlocked]
  · rename_i hopen
    split_ifs
    · refine ⟨[.check c, .fail c], by simp, log ++ [.failed clock], ?_⟩
      simp [step, hopen, Attempt.isOf]
    split
    · refine ⟨[.check c, .leave c], by simp, log, ?_⟩
      simp [step, hopen, Attempt.isUnverified, Attempt.isOf]
    · split_ifs
      · split
        · split_ifs
          · refine ⟨[.check c, .verify c, .succeed c], by simp, log ++ [.verified clock], ?_⟩
            simp [step, hopen, Attempt.isUnverified, Attempt.isOf]
          · refine ⟨[.check c, .verify c, .fail c], by simp,
              log ++ [.verified clock, .failed clock], ?_⟩
            simp [step, hopen, Attempt.isUnverified, Attempt.isOf]
        · refine ⟨[.check c, .fail c], by simp, log ++ [.failed clock], ?_⟩
          simp [step, hopen, Attempt.isOf]
      · refine ⟨[.check c, .leave c], by simp, log, ?_⟩
        simp [step, hopen, Attempt.isUnverified, Attempt.isOf]

/-! ## The law -/

end LoginServer

/-- When it happened. -/
def LoginEvent.time : LoginEvent → Nat
  | .verified time => time
  | .failed time => time

/-- A password verified at or after a time. -/
def LoginEvent.verifiedSince (start : Nat) : LoginEvent → Bool
  | .verified time => start ≤ time
  | .failed _ => false

/-- A failure recorded at or after a time. -/
def LoginEvent.failedSince (start : Nat) : LoginEvent → Bool
  | .verified _ => false
  | .failed time => start ≤ time

namespace LoginServer

/-- **The attempt limit**: at most ten passwords are verified in any 60 seconds,
and after ten failures in 60 seconds none is verified for five minutes. -/
structure Limited (s : LoginServer) : Prop where
  window : ∀ start,
    s.log.countP (fun e => e.verifiedSince start ∧ e.time ≤ start + 60 * second) ≤ 10
  lockout : ∀ before f after, s.log = before ++ .failed f :: after →
    10 ≤ (before ++ [.failed f]).countP (·.failedSince (f - 60 * second)) →
    ∀ v, .verified v ∈ after → f + 300 * second ≤ v

/-- The limiter's entry for an address. -/
def entry (ip : Bytes) (s : LoginServer) : IpRateLimit := (s.tracker.lookup ip).getD {}

/-- The failures on record that still count: at most sixty whole seconds old. -/
def kept (ip : Bytes) (s : LoginServer) : List Nat :=
  (s.entry ip).failedAttempts.filter fun tp => ¬ (s.clock - tp) / second > 60

/-- A lockout of the address lasts beyond a time. -/
def Barred (ip : Bytes) (s : LoginServer) (time : Nat) : Prop :=
  ∃ lockoutUntil ∈ (s.entry ip).lockoutUntil, time < lockoutUntil

/-- The address is locked out. -/
def LockedOut (ip : Bytes) (s : LoginServer) : Prop := s.Barred ip s.clock

/-- **The condition of the law**: a check that passes finds fewer than ten
failures on record and attempts under way, taken together. -/
def Spare (ip : Bytes) (s : LoginServer) : LoginAction → Prop
  | .check _ => s.tracker.isLockedOut s.clock ip = none →
      (s.kept ip).length + s.attempts.length < 10
  | _ => True

variable {ip : Bytes} {s t : LoginServer}

theorem isLockedOut_none :
    s.tracker.isLockedOut s.clock ip = none ↔ ¬ s.LockedOut ip := by
  unfold RateLimiter.isLockedOut LockedOut Barred entry
  cases hentry : s.tracker.lookup ip with
  | none => simp
  | some entry =>
      cases hlock : entry.lockoutUntil with
      | none => simp [hlock]
      | some lockoutUntil => simp [hlock]

/-- What the entry becomes when a failure is recorded. -/
def failedEntry (ip : Bytes) (s : LoginServer) : IpRateLimit :=
  if (s.kept ip).length + 1 ≥ 10 then
    { failedAttempts := [], lockoutUntil := some (s.clock + 300 * second) }
  else { s.entry ip with failedAttempts := s.kept ip ++ [s.clock] }

/-- An attempt has failed; these are left. -/
def afterFailure (ip : Bytes) (s : LoginServer) (attempts : List Attempt) : LoginServer :=
  { s with
    attempts
    tracker := s.tracker.recordFailedAttempt s.clock ip
    log := s.log ++ [.failed s.clock] }

theorem afterFailure_entry (attempts : List Attempt) :
    (s.afterFailure ip attempts).entry ip = s.failedEntry ip := by
  unfold afterFailure entry RateLimiter.recordFailedAttempt
  dsimp only
  rw [AList.lookup_insert, Option.getD_some, List.length_append, List.length_singleton]
  rfl

/-- **What a step does**, told from its label. -/
inductive Stepped (ip : Bytes) (s : LoginServer) : LoginAction → LoginServer → Prop
  | wait (d : Nat) : Stepped ip s (.wait d) { s with clock := s.clock + d }
  | blocked (c : Nat) (locked : s.LockedOut ip) : Stepped ip s (.check c) s
  | passed (c : Nat) (unlocked : ¬ s.LockedOut ip) :
      Stepped ip s (.check c) { s with attempts := s.attempts ++ [{ connection := c }] }
  | verify (c : Nat) (a : Attempt) (ha : a ∈ s.attempts) (hof : a.isOf c = true)
      (hverified : a.verified = false) : Stepped ip s (.verify c) { s with
        attempts := s.attempts.map fun a => if a.isOf c then { a with verified := true } else a
        log := s.log ++ [.verified s.clock] }
  | fail (c : Nat) (a : Attempt) (before after : List Attempt)
      (attempts : s.attempts = before ++ a :: after) :
      Stepped ip s (.fail c) (s.afterFailure ip (before ++ after))
  | leave (c : Nat) (a : Attempt) (before after : List Attempt)
      (attempts : s.attempts = before ++ a :: after) (hverified : a.verified = false) :
      Stepped ip s (.leave c) { s with attempts := before ++ after }
  | succeed (c : Nat) (a : Attempt) (before after : List Attempt)
      (attempts : s.attempts = before ++ a :: after) : Stepped ip s (.succeed c) { s with
        attempts := before ++ after
        tracker := s.tracker.recordSuccess ip }

theorem step_stepped {action : LoginAction} (h : step ip s action = some t) :
    Stepped ip s action t := by
  have herase : ∀ p : Attempt → Bool, s.attempts.any p = true →
      ∃ a before after, p a = true ∧ s.attempts = before ++ a :: after ∧
        s.attempts.eraseP p = before ++ after := by
    intro p hany
    obtain ⟨a, ha, hp⟩ := List.any_eq_true.mp hany
    obtain ⟨b, before, after, -, hb, hsplit, hrest⟩ := List.exists_of_eraseP ha hp
    exact ⟨b, before, after, hb, hsplit, hrest⟩
  cases action with
  | wait d =>
      obtain rfl := Option.some.inj h
      exact .wait d
  | check c =>
      unfold step at h
      dsimp only at h
      split_ifs at h
      split at h
      · rename_i lockMsg hlocked
        obtain rfl := Option.some.inj h
        refine .blocked c (Classical.not_not.mp fun hopen => ?_)
        rw [isLockedOut_none.mpr hopen] at hlocked
        cases hlocked
      · rename_i hopen
        obtain rfl := Option.some.inj h
        exact .passed c (isLockedOut_none.mp hopen)
  | verify c =>
      unfold step at h
      dsimp only at h
      split_ifs at h with hany
      obtain rfl := Option.some.inj h
      obtain ⟨a, ha, hp⟩ := List.any_eq_true.mp hany
      rw [Attempt.isUnverified, Bool.and_eq_true, Bool.not_eq_true'] at hp
      exact .verify c a ha hp.1 hp.2
  | fail c =>
      unfold step at h
      dsimp only at h
      split_ifs at h with hany
      obtain rfl := Option.some.inj h
      obtain ⟨a, before, after, -, hsplit, hrest⟩ := herase _ hany
      rw [hrest]
      exact .fail c a before after hsplit
  | leave c =>
      unfold step at h
      dsimp only at h
      split_ifs at h with hany
      obtain rfl := Option.some.inj h
      obtain ⟨a, before, after, hp, hsplit, hrest⟩ := herase _ hany
      rw [Attempt.isUnverified, Bool.and_eq_true, Bool.not_eq_true'] at hp
      rw [hrest]
      exact .leave c a before after hsplit hp.2
  | succeed c =>
      unfold step at h
      dsimp only at h
      split_ifs at h with hany
      obtain rfl := Option.some.inj h
      obtain ⟨a, before, after, -, hsplit, hrest⟩ := herase _ hany
      rw [hrest]
      exact .succeed c a before after hsplit

/-! ## The invariant -/

/-- The invariant.  The kept failures and the attempts under way are ten at
most, and no attempt is under way in a lockout.  Of the last 60 seconds, every
failure is kept and every verified password is kept as a failure or still under
way, unless a lockout has followed. -/
structure Inv (ip : Bytes) (s : LoginServer) : Prop where
  past : ∀ e ∈ s.log, e.time ≤ s.clock
  idle : s.LockedOut ip → s.attempts = []
  room : (s.kept ip).length + s.attempts.length ≤ 10
  verified : ∀ start, start ≤ s.clock → s.clock ≤ start + 60 * second →
    s.Barred ip (start + 60 * second) ∨ s.log.countP (·.verifiedSince start) ≤
      s.attempts.countP (·.verified) + (s.entry ip).failedAttempts.countP (start ≤ ·)
  failures : ∀ start, start ≤ s.clock → s.clock ≤ start + 60 * second →
    s.Barred ip (start + 60 * second) ∨ s.log.countP (·.failedSince start) ≤
      (s.entry ip).failedAttempts.countP (start ≤ ·)
  locked : ∀ before f after, s.log = before ++ .failed f :: after →
    10 ≤ (before ++ [.failed f]).countP (·.failedSince (f - 60 * second)) →
    ∀ time < f + 300 * second, s.Barred ip time
  limited : s.Limited

/-- What was recorded in the last 60 seconds is kept. -/
theorem countP_le_kept {start : Nat} (h : s.clock ≤ start + 60 * second) :
    (s.entry ip).failedAttempts.countP (start ≤ ·) ≤ (s.kept ip).length := by
  rw [kept, ← List.countP_eq_length_filter]
  refine List.countP_mono_left fun tp _ htp => ?_
  rw [decide_eq_true_eq] at htp ⊢
  unfold second at *
  omega

/-- Nothing was logged after the present. -/
theorem countP_since (past : ∀ e ∈ s.log, e.time ≤ s.clock) {start : Nat}
    (h : s.clock < start) :
    s.log.countP (·.verifiedSince start) = 0 ∧ s.log.countP (·.failedSince start) = 0 := by
  refine ⟨List.countP_eq_zero.mpr fun e he hsince => ?_,
    List.countP_eq_zero.mpr fun e he hsince => ?_⟩
  all_goals
    have htime := past e he
    cases e with
    | verified time =>
        first
        | exact Nat.not_le.mpr (Nat.lt_of_le_of_lt htime h) (of_decide_eq_true hsince)
        | cases hsince
    | failed time =>
        first
        | exact Nat.not_le.mpr (Nat.lt_of_le_of_lt htime h) (of_decide_eq_true hsince)
        | cases hsince

theorem Inv.wait (h : s.Inv ip) (d : Nat) : Inv ip { s with clock := s.clock + d } where
  past e he := Nat.le_add_right_of_le (h.past e he)
  idle hlocked := by
    obtain ⟨lockoutUntil, hlock, hlater⟩ := hlocked
    exact h.idle ⟨lockoutUntil, hlock, Nat.lt_of_le_of_lt (Nat.le_add_right ..) hlater⟩
  room := by
    refine Nat.le_trans (Nat.add_le_add_right ?_ _) h.room
    show (List.filter _ (s.entry ip).failedAttempts).length ≤
      (List.filter _ (s.entry ip).failedAttempts).length
    rw [← List.countP_eq_length_filter, ← List.countP_eq_length_filter]
    refine List.countP_mono_left fun tp _ htp => ?_
    rw [decide_eq_true_eq] at htp ⊢
    dsimp only at htp
    unfold second at *
    omega
  verified start hstart hend := by
    rcases Nat.lt_or_ge s.clock start with hnew | hold
    · refine .inr (Nat.le_trans (Nat.le_of_eq ?_) (Nat.zero_le _))
      exact (countP_since h.past hnew).1
    · exact h.verified start hold (Nat.le_trans (Nat.le_add_right ..) hend)
  failures start hstart hend := by
    rcases Nat.lt_or_ge s.clock start with hnew | hold
    · refine .inr (Nat.le_trans (Nat.le_of_eq ?_) (Nat.zero_le _))
      exact (countP_since h.past hnew).2
    · exact h.failures start hold (Nat.le_trans (Nat.le_add_right ..) hend)
  locked := h.locked
  limited := ⟨h.limited.window, h.limited.lockout⟩

theorem Inv.passed (h : s.Inv ip) (unlocked : ¬ s.LockedOut ip)
    (hspare : (s.kept ip).length + s.attempts.length < 10) (c : Nat) :
    Inv ip { s with attempts := s.attempts ++ [{ connection := c }] } where
  past := h.past
  idle hlocked := absurd hlocked unlocked
  room := by
    rw [List.length_append, List.length_singleton]
    exact hspare
  verified start hstart hend := by
    rw [List.countP_append]
    exact (h.verified start hstart hend).imp_right fun hle =>
      Nat.le_trans hle (Nat.add_le_add_right (Nat.le_add_right ..) _)
  failures := h.failures
  locked := h.locked
  limited := ⟨h.limited.window, h.limited.lockout⟩

theorem Inv.leave (h : s.Inv ip) {a : Attempt} {before after : List Attempt}
    (hattempts : s.attempts = before ++ a :: after) (hverified : a.verified = false) :
    Inv ip { s with attempts := before ++ after } where
  past := h.past
  idle hlocked := by
    have hnone := h.idle hlocked
    rw [hattempts] at hnone
    exact absurd hnone (by simp)
  room := by
    have hroom := h.room
    rw [hattempts, List.length_append, List.length_cons] at hroom
    rw [List.length_append]
    show (s.kept ip).length + _ ≤ 10
    omega
  verified start hstart hend := by
    have hcount : (before ++ after).countP (·.verified) = s.attempts.countP (·.verified) := by
      rw [hattempts, List.countP_append, List.countP_append,
        List.countP_cons_of_neg (by simp [hverified])]
    dsimp only
    rw [hcount]
    exact h.verified start hstart hend
  failures := h.failures
  locked := h.locked
  limited := ⟨h.limited.window, h.limited.lockout⟩

/-- With an attempt under way there is no lockout. -/
theorem Inv.not_barred (h : s.Inv ip) (hattempts : s.attempts ≠ []) {time : Nat}
    (htime : s.clock ≤ time) : ¬ s.Barred ip time := by
  rintro ⟨lockoutUntil, hlock, hlater⟩
  exact hattempts (h.idle ⟨lockoutUntil, hlock, Nat.lt_of_le_of_lt htime hlater⟩)

/-- Where a failure stands in a log that has grown by one event. -/
theorem concat_split {log before after : List LoginEvent} {e e' : LoginEvent}
    (h : log ++ [e] = before ++ e' :: after) :
    (after = [] ∧ e = e' ∧ before = log) ∨
      ∃ after', after = after' ++ [e] ∧ log = before ++ e' :: after' := by
  rcases List.eq_nil_or_concat after with rfl | ⟨after', last, rfl⟩
  · obtain ⟨hlog, he⟩ := List.append_inj' h rfl
    exact .inl ⟨rfl, List.singleton_inj.mp he, hlog.symm⟩
  · rw [List.concat_eq_append, ← List.cons_append, ← List.append_assoc] at h
    obtain ⟨hlog, he⟩ := List.append_inj' h rfl
    obtain rfl := List.singleton_inj.mp he
    exact .inr ⟨after', List.concat_eq_append, hlog⟩

/-- Marking an unverified attempt adds a verified one. -/
theorem countP_verify {attempts : List Attempt} {c : Nat} {a : Attempt} (ha : a ∈ attempts)
    (hof : a.isOf c = true) (hverified : a.verified = false) :
    attempts.countP (·.verified) + 1 ≤
      (attempts.map fun a => if a.isOf c then { a with verified := true } else a).countP
        (·.verified) := by
  have hmono : ∀ rest : List Attempt, rest.countP (·.verified) ≤
      (rest.map fun a => if a.isOf c then { a with verified := true } else a).countP
        (·.verified) := by
    intro rest
    rw [List.countP_map]
    refine List.countP_mono_left fun b _ hb => ?_
    dsimp only [Function.comp]
    split_ifs
    · rfl
    · exact hb
  obtain ⟨before, after, rfl⟩ := List.append_of_mem ha
  have hbefore := hmono before
  have hafter := hmono after
  rw [List.map_append, List.map_cons, if_pos hof, List.countP_append, List.countP_append,
    List.countP_cons_of_neg (by simp [hverified]), List.countP_cons_of_pos (by rfl)]
  omega

theorem Inv.verify (h : s.Inv ip) {c : Nat} {a : Attempt} (ha : a ∈ s.attempts)
    (hof : a.isOf c = true) (hverified : a.verified = false) : Inv ip { s with
      attempts := s.attempts.map fun a => if a.isOf c then { a with verified := true } else a
      log := s.log ++ [.verified s.clock] } := by
  have hbusy : s.attempts ≠ [] := List.ne_nil_of_mem ha
  have hfew : s.attempts.countP (·.verified) < s.attempts.length := by
    refine Nat.lt_of_le_of_ne List.countP_le_length fun hall => ?_
    have := List.countP_eq_length.mp hall a ha
    rw [hverified] at this
    cases this
  refine ⟨fun e he => ?_, fun hlocked => ?_, ?_, fun start hstart hend => .inr ?_,
    fun start hstart hend => ?_, fun before f after hsplit hten time htime => ?_, ⟨fun start => ?_,
    fun before f after hsplit hten v hv => ?_⟩⟩
  · rcases List.mem_append.mp he with hold | hnew
    · exact h.past e hold
    · rw [List.mem_singleton.mp hnew]
      exact Nat.le_refl _
  · exact absurd (h.idle hlocked) hbusy
  · rw [List.length_map]
    exact h.room
  · have hcount := (h.verified start hstart hend).resolve_left (h.not_barred hbusy hend)
    have hmore := countP_verify ha hof hverified
    rw [List.countP_append, List.countP_singleton]
    dsimp only [entry] at hcount ⊢
    split_ifs <;> omega
  · refine (h.failures start hstart hend).imp_right fun hle => ?_
    rw [List.countP_append]
    exact hle
  · rcases concat_split hsplit with ⟨-, he, -⟩ | ⟨after', rfl, hlog⟩
    · cases he
    · exact h.locked before f after' hlog hten time htime
  · rw [List.countP_append]
    by_cases hin : start ≤ s.clock ∧ s.clock ≤ start + 60 * second
    · have hcount := (h.verified start hin.1 hin.2).resolve_left (h.not_barred hbusy hin.2)
      have hkept : (s.entry ip).failedAttempts.countP (start ≤ ·) ≤ _ := countP_le_kept hin.2
      have hroom := h.room
      have hwindow : s.log.countP (fun e => e.verifiedSince start ∧ e.time ≤ start + 60 * second) ≤
          s.log.countP (·.verifiedSince start) :=
        List.countP_mono_left fun e _ he => (of_decide_eq_true he).1
      rw [List.countP_singleton]
      split_ifs <;> omega
    · rw [List.countP_cons_of_neg (by simpa [LoginEvent.verifiedSince, LoginEvent.time] using hin)]
      exact h.limited.window start
  · rcases concat_split hsplit with ⟨-, he, -⟩ | ⟨after', rfl, hlog⟩
    · cases he
    · rcases List.mem_append.mp hv with hold | hnew
      · exact h.limited.lockout before f after' hlog hten v hold
      · obtain rfl : v = s.clock := LoginEvent.verified.inj (List.mem_singleton.mp hnew)
        by_contra hearly
        exact h.not_barred hbusy (Nat.le_refl _)
          (h.locked before f after' hlog hten s.clock (Nat.lt_of_not_le hearly))

/-- The tenth failure on record locks the address out for five minutes; another
one is recorded beside those still kept. -/
theorem failedEntry_cases (ip : Bytes) (s : LoginServer) :
    9 ≤ (s.kept ip).length ∧ (s.failedEntry ip).failedAttempts = [] ∧
        (s.failedEntry ip).lockoutUntil = some (s.clock + 300 * second) ∨
      (s.kept ip).length < 9 ∧ (s.failedEntry ip).failedAttempts = s.kept ip ++ [s.clock] ∧
        (s.failedEntry ip).lockoutUntil = (s.entry ip).lockoutUntil := by
  unfold failedEntry
  split_ifs with hten
  · exact .inl ⟨by omega, rfl, rfl⟩
  · exact .inr ⟨by omega, rfl, rfl⟩

/-- Recent failures stay on record when another one is recorded. -/
theorem countP_kept {start : Nat} (h : s.clock ≤ start + 60 * second) :
    (s.kept ip).countP (start ≤ ·) = (s.entry ip).failedAttempts.countP (start ≤ ·) := by
  rw [kept, List.countP_filter]
  refine List.countP_congr fun tp _ => ?_
  rw [Bool.and_eq_true, decide_eq_true_eq, decide_eq_true_eq]
  unfold second at *
  omega

theorem Inv.afterFailure_past (h : s.Inv ip) (attempts : List Attempt) :
    ∀ e ∈ (s.afterFailure ip attempts).log, e.time ≤ s.clock := by
  intro e he
  rcases List.mem_append.mp he with hold | hnew
  · exact h.past e hold
  · rw [List.mem_singleton.mp hnew]
    exact Nat.le_refl _

/-- A failure verifies nothing. -/
theorem Inv.afterFailure_limited (h : s.Inv ip) (attempts : List Attempt) :
    (s.afterFailure ip attempts).Limited := by
  refine ⟨fun start => ?_, fun before f after hsplit hten v hv => ?_⟩
  · show (s.log ++ [LoginEvent.failed s.clock]).countP _ ≤ 10
    rw [List.countP_append, List.countP_cons_of_neg (by simp [LoginEvent.verifiedSince])]
    exact h.limited.window start
  · rcases concat_split hsplit with ⟨rfl, -, -⟩ | ⟨after', rfl, hlog⟩
    · cases hv
    · rcases List.mem_append.mp hv with hold | hnew
      · exact h.limited.lockout before f after' hlog hten v hold
      · cases List.mem_singleton.mp hnew

/-- The lockout begins: no other attempt is under way. -/
theorem Inv.lockOut (h : s.Inv ip) {attempts : List Attempt}
    (hlength : s.attempts.length = attempts.length + 1) (hnine : 9 ≤ (s.kept ip).length)
    (hstamps : (s.failedEntry ip).failedAttempts = [])
    (hlock : (s.failedEntry ip).lockoutUntil = some (s.clock + 300 * second)) :
    (s.afterFailure ip attempts).Inv ip := by
  have hroom := h.room
  have hnone : attempts = [] := List.length_eq_zero_iff.mp (by omega)
  have hbarred : ∀ time < s.clock + 300 * second, (s.afterFailure ip attempts).Barred ip time := by
    intro time htime
    refine ⟨_, ?_, htime⟩
    rw [afterFailure_entry, hlock]
    rfl
  constructor
  case past => exact h.afterFailure_past attempts
  case idle => exact fun _ => hnone
  case room =>
    rw [kept, afterFailure_entry, hstamps,
      show (s.afterFailure ip attempts).attempts = [] from hnone]
    exact Nat.zero_le _
  case verified =>
    intro start hstart hend
    refine .inl (hbarred _ ?_)
    change start ≤ s.clock at hstart
    unfold second
    omega
  case failures =>
    intro start hstart hend
    refine .inl (hbarred _ ?_)
    change start ≤ s.clock at hstart
    unfold second
    omega
  case locked =>
    intro before f after hsplit hten time htime
    have hf : f ≤ s.clock :=
      h.afterFailure_past attempts (.failed f) (hsplit ▸ List.mem_append_right _ List.mem_cons_self)
    exact hbarred time (by omega)
  case limited => exact h.afterFailure_limited attempts

/-- The failure is recorded beside fewer than nine others. -/
theorem Inv.record (h : s.Inv ip) {attempts : List Attempt} (hbusy : s.attempts ≠ [])
    (hlength : s.attempts.length = attempts.length + 1)
    (hcount : s.attempts.countP (·.verified) ≤ attempts.countP (·.verified) + 1)
    (hfew : (s.kept ip).length < 9)
    (hstamps : (s.failedEntry ip).failedAttempts = s.kept ip ++ [s.clock])
    (hlock : (s.failedEntry ip).lockoutUntil = (s.entry ip).lockoutUntil) :
    (s.afterFailure ip attempts).Inv ip := by
  have hbarred : ∀ time, (s.afterFailure ip attempts).Barred ip time ↔ s.Barred ip time := by
    intro time
    rw [Barred, afterFailure_entry, hlock]
    rfl
  have hmore : ∀ start, start ≤ s.clock → s.clock ≤ start + 60 * second →
      ((s.afterFailure ip attempts).entry ip).failedAttempts.countP (start ≤ ·) =
        (s.entry ip).failedAttempts.countP (start ≤ ·) + 1 := by
    intro start hstart hend
    rw [afterFailure_entry, hstamps, List.countP_append, countP_kept hend,
      List.countP_singleton, if_pos (decide_eq_true hstart)]
  constructor
  case past => exact h.afterFailure_past attempts
  case idle => exact fun hlocked => absurd ((hbarred _).mp hlocked) (h.not_barred hbusy le_rfl)
  case room =>
    have hroom := h.room
    have hkept : ((s.afterFailure ip attempts).kept ip).length ≤ (s.kept ip).length + 1 := by
      rw [kept, afterFailure_entry, hstamps]
      exact (List.length_filter_le _ _).trans (List.length_append ..).le
    show _ + attempts.length ≤ 10
    omega
  case verified =>
    intro start hstart hend
    have hold := (h.verified start hstart hend).resolve_left (h.not_barred hbusy hend)
    refine .inr ?_
    rw [hmore start hstart hend]
    show (s.log ++ [LoginEvent.failed s.clock]).countP _ ≤ attempts.countP _ + _
    rw [List.countP_append, List.countP_cons_of_neg (by simp [LoginEvent.verifiedSince]),
      List.countP_nil]
    omega
  case failures =>
    intro start hstart hend
    have hold := (h.failures start hstart hend).resolve_left (h.not_barred hbusy hend)
    refine .inr ?_
    rw [hmore start hstart hend]
    show (s.log ++ [LoginEvent.failed s.clock]).countP _ ≤ _
    rw [List.countP_append, List.countP_singleton]
    split_ifs <;> omega
  case locked =>
    intro before f after hsplit hten time htime
    rw [hbarred]
    rcases concat_split hsplit with ⟨-, he, rfl⟩ | ⟨after', rfl, hlog⟩
    · -- ten failures in 60 seconds would have been on record
      obtain rfl : s.clock = f := LoginEvent.failed.inj he
      have hrecent : s.clock ≤ s.clock - 60 * second + 60 * second := by omega
      have hold := (h.failures _ (Nat.sub_le ..) hrecent).resolve_left
        (h.not_barred hbusy hrecent)
      have hkept : (s.entry ip).failedAttempts.countP (s.clock - 60 * second ≤ ·) ≤ _ :=
        countP_le_kept hrecent
      rw [List.countP_append, List.countP_singleton] at hten
      split_ifs at hten <;> omega
    · exact h.locked before f after' hlog hten time htime
  case limited => exact h.afterFailure_limited attempts

theorem Inv.fail (h : s.Inv ip) {a : Attempt} {before after : List Attempt}
    (hattempts : s.attempts = before ++ a :: after) :
    (s.afterFailure ip (before ++ after)).Inv ip := by
  have hbusy : s.attempts ≠ [] := by simp [hattempts]
  have hlength : s.attempts.length = (before ++ after).length + 1 := by
    rw [hattempts, List.length_append, List.length_append, List.length_cons]
    omega
  have hcount : s.attempts.countP (·.verified) ≤ (before ++ after).countP (·.verified) + 1 := by
    rw [hattempts, List.countP_append, List.countP_append, List.countP_cons]
    split_ifs <;> omega
  rcases failedEntry_cases ip s with ⟨hnine, hstamps, hlock⟩ | ⟨hfew, hstamps, hlock⟩
  · exact h.lockOut hlength hnine hstamps hlock
  · exact h.record hbusy hlength hcount hfew hstamps hlock

/-! ## Runs -/

/-- **What each step keeps** under the condition, unless a login succeeds. -/
theorem Inv.step (h : s.Inv ip) {action : LoginAction} (hspare : s.Spare ip action)
    (hfails : ∀ c, action ≠ .succeed c) (hstep : step ip s action = some t) : t.Inv ip := by
  cases step_stepped hstep with
  | wait d => exact h.wait d
  | blocked c locked => exact h
  | passed c unlocked => exact h.passed unlocked (hspare (isLockedOut_none.mpr unlocked)) c
  | verify c a ha hof hverified => exact h.verify ha hof hverified
  | fail c a before after attempts => exact h.fail attempts
  | leave c a before after attempts hverified => exact h.leave attempts hverified
  | succeed c => exact absurd rfl (hfails c)

theorem Inv.init (ip : Bytes) : Inv ip {} where
  past e he := absurd he List.not_mem_nil
  idle _ := rfl
  room := Nat.zero_le _
  verified _ _ _ := .inr (Nat.zero_le _)
  failures _ _ _ := .inr (Nat.zero_le _)
  locked before f after hsplit := by simp at hsplit
  limited := ⟨fun _ => Nat.zero_le _, fun before f after hsplit => by simp at hsplit⟩

/-- **The attempt limit under concurrency**: in every run in which no login
succeeds and each check that passes finds fewer than ten failures on record and
attempts under way, the limit holds. -/
theorem login_limited {ip : Bytes} {actions : List LoginAction} {t : LoginServer}
    (hrun : Exec.exec (step ip) {} actions = some t) (hfails : ∀ c, .succeed c ∉ actions)
    (hspare : Exec.Along (step ip) (Spare ip) {} actions) : t.Limited := by
  have hlabels : ∀ action ∈ actions, ∀ c, action ≠ .succeed c :=
    fun action haction c hc => hfails c (hc ▸ haction)
  have hboth := Exec.along_and hspare (Exec.along_of_forall hlabels _)
  exact (Exec.exec_invariant_along (fun s a t hs hok hstep => hs.step hok.1 hok.2 hstep)
    (Inv.init ip) hboth hrun).limited

instance (ip : Bytes) (s : LoginServer) : (action : LoginAction) → Decidable (s.Spare ip action)
  | .check _ => inferInstanceAs (Decidable (_ → _))
  | .wait _ | .verify _ | .fail _ | .leave _ | .succeed _ => .isTrue trivial

/-- Ten attempts one after the other, an eleventh that is locked out, and one
five minutes later. -/
def oneByOne : List LoginAction :=
  (List.replicate 10 [.check 1, .verify 1, .fail 1]).flatten ++
    [.check 1, .wait (300 * second), .check 1, .verify 1, .fail 1]

theorem login_limited_oneByOne :
    ∃ t, Exec.exec (step []) {} oneByOne = some t ∧ t.log.length = 22 ∧ t.Limited := by
  have hany : (Exec.exec (step []) {} oneByOne).any (fun t =>
      decide (t.log.length = 22)) = true := by
    decide +kernel
  obtain ⟨t, hrun, hlength⟩ := Exec.exec_any hany
  have hfails : ∀ action ∈ oneByOne, ∀ c, action ≠ .succeed c := by
    intro action haction c hc
    have hnone : oneByOne.all (fun | .succeed _ => false | _ => true) = true := by decide +kernel
    have := List.all_eq_true.mp hnone action haction
    rw [hc] at this
    cases this
  exact ⟨t, hrun, of_decide_eq_true hlength,
    login_limited hrun (fun c hc => hfails _ hc c rfl) (by decide +kernel)⟩

/-- Eleven handlers check before the first of them fails; the last one verifies
its password when the others have failed. -/
def race : List LoginAction :=
  (List.range 11).map .check ++ ((List.range 10).map fun c => [.verify c, .fail c]).flatten ++
    [.verify 10]

theorem login_race :
    ∃ t, Exec.exec (step []) {} race = some t ∧ (∀ c, .succeed c ∉ race) ∧ ¬ t.Limited := by
  have hany : (Exec.exec (step []) {} race).any (fun t => decide
      (t.log.countP (fun e => e.verifiedSince 0 ∧ e.time ≤ 0 + 60 * second) = 11)) = true := by
    decide +kernel
  obtain ⟨t, hrun, heleven⟩ := Exec.exec_any hany
  refine ⟨t, hrun, fun c hc => ?_, fun hlimited => ?_⟩
  · have hnone : race.all (fun | .succeed _ => false | _ => true) = true := by decide +kernel
    cases List.all_eq_true.mp hnone _ hc
  · exact absurd (hlimited.window 0) (by rw [of_decide_eq_true heleven]; decide)

end LoginServer

end Master
