import GipMultiplayer.SessionTokens

/-!
# Who gets in

What the accounts of the master admit over a whole run on a database that `setup`
has made.  Beside the accounts stands what was registered: a name, an address as
it is bound, and a password.  Nothing but a registration adds to it, and nothing
takes an account away or gives it to someone else.

* `Registry`, `registryStep` — the accounts, and what was registered;
* `Stores`, `Registry.Inv` — the row of a registration, and all of them;
* `register_success_iff` — whoever registers gets a name and an address that are
  free;
* `login_success_iff` — a password login gets in with the password of the address;
* `accounts_exact` — the same for whole runs, with the logins by a token.
-/

namespace Master

open Sql (Value Table Row)

/-! ## What was registered -/

/-- An account as it was registered. -/
structure Registration where
  username : Bytes
  email : Bytes
  password : Bytes
  deriving DecidableEq, Repr

/-- The accounts, and what was registered. -/
structure Registry where
  accounts : Accounts
  registered : List Registration := []

/-- What a request registers. -/
def registers (crypto : Crypto) (s : Accounts) (env : Env) : Request → List Registration
  | .register p =>
      if (register crypto env s.now s.db p).1.success then
        [⟨p.username, cString (toLower p.email), p.password⟩]
      else []
  | _ => []

/-- One request. -/
def registryStep (crypto : Crypto) (s : Registry) (a : Env × Request) : Option Registry :=
  some
    { accounts := act crypto s.accounts a.1 a.2
      registered := s.registered ++ registers crypto s.accounts a.1 a.2 }

/-- The registration is the one of the address. -/
def Registration.isOf (email : Bytes) (r : Registration) : Bool :=
  r.email = cString (toLower email)

/-- The name and the address are free. -/
def Free (registered : List Registration) (p : UserRegister) : Prop :=
  ∀ r ∈ registered, r.username ≠ p.username ∧ r.isOf p.email = false

/-- The passwords that a request sets or presents. -/
def passwords (a : Env × Request) : List Bytes :=
  match a.2 with
  | .register p => [p.password]
  | .login _ p => [p.password]
  | _ => []

/-! ## The row of a registration -/

/-- The row stores the registration.  `S` and `P` are the salts and the passwords
of the run. -/
structure Stores (crypto : Crypto) (S P : Bytes → Prop) (row : Row UserColumn)
    (r : Registration) : Prop where
  username : row .username = .text r.username
  email : row .email = .text r.email
  lowered : toLower r.email = r.email
  algo : row .algo = .text pbkdf2
  known : P r.password
  salted : ∃ salt : RandomBytes 16, S (hex salt.val) ∧ row .salt = .text (hex salt.val) ∧
    row .password = .text (hashPasswordPBKDF2 crypto r.password (hex salt.val))

variable {crypto : Crypto} {older : Bool} {T S P : Bytes → Prop} {now : Int} {d : Database}
  {issued : List Issued} {row : Row UserColumn} {r : Registration}
  {registered : List Registration}

namespace Stores

theorem isPbkdf2 (h : Stores crypto S P row r) :
    isPbkdf2 (columnText (row .salt)) (columnText (row .algo)) = true := by
  obtain ⟨salt, -, hsalt, -⟩ := h.salted
  rw [hsalt, h.algo]
  unfold Master.isPbkdf2 columnText
  simp [hex_ne_nil salt]

end Stores

/-- Every row stores a registration. -/
theorem exists_stores {rows : List (Row UserColumn)}
    (h : List.Forall₂ (Stores crypto S P) rows registered) (hrow : row ∈ rows) :
    ∃ r ∈ registered, Stores crypto S P row r := by
  induction h with
  | nil => cases hrow
  | @cons first r rows registered hstores _ ih =>
      rcases List.mem_cons.mp hrow with rfl | hrest
      · exact ⟨r, List.mem_cons_self, hstores⟩
      · obtain ⟨other, hother, hstored⟩ := ih hrest
        exact ⟨other, List.mem_cons_of_mem _ hother, hstored⟩

/-- What holds of the rows holds of the registrations. -/
theorem forall_stores {rows : List (Row UserColumn)}
    (h : List.Forall₂ (Stores crypto S P) rows registered) {p : Row UserColumn → Prop}
    {q : Registration → Prop} (hpq : ∀ row r, Stores crypto S P row r → (p row ↔ q r)) :
    (∀ row ∈ rows, p row) ↔ ∀ r ∈ registered, q r := by
  induction h with
  | nil => exact iff_of_true (by simp) (by simp)
  | cons hstores _ ih =>
      rw [List.forall_mem_cons, List.forall_mem_cons, hpq _ _ hstores, ih]

/-! ## A registration -/

/-- The values that a registration inserts. -/
def registeredValues (crypto : Crypto) (env : Env) (p : UserRegister) :
    List (UserColumn × Value) :=
  [ (.username, bindText p.username), (.email, bindText (toLower p.email)),
    (.password, bindText (hashPasswordPBKDF2 crypto p.password (hex env.salt.val))),
    (.salt, bindText (hex env.salt.val)), (.algo, .text pbkdf2) ]

/-- A valid name is bound whole. -/
theorem cString_username {username : Bytes} (h : isValidUsername username = true) :
    cString username = username := by
  unfold isValidUsername at h
  split_ifs at h
  refine List.takeWhile_eq_self_iff.mpr fun c hc => ?_
  have hname := List.all_eq_true.mp h c hc
  rw [decide_eq_true_eq]
  rintro rfl
  exact absurd hname (by decide)

/-- The new row stores the registration. -/
theorem newRow_stores (h : Inv crypto older T now d issued) {env : Env}
    (hS : S (hex env.salt.val)) {p : UserRegister} (hP : P p.password)
    (hname : isValidUsername p.username = true) :
    Stores crypto S P (d.users.newRow now (registeredValues crypto env p))
      ⟨p.username, cString (toLower p.email), p.password⟩ where
  username := by
    simp [Table.newRow, h.usersKey, registeredValues, Row.assign, Function.update, bindText,
      cString_username hname]
  email := by
    simp [Table.newRow, h.usersKey, registeredValues, Row.assign, Function.update, bindText]
  lowered := by rw [← cString_toLower, toLower_toLower]
  algo := by simp [Table.newRow, h.usersKey, registeredValues, Row.assign, Function.update]
  known := hP
  salted := ⟨env.salt, hS, by
      simp [Table.newRow, h.usersKey, registeredValues, Row.assign, Function.update, bindText], by
      simp [Table.newRow, h.usersKey, registeredValues, Row.assign, Function.update, bindText,
        hashPasswordPBKDF2]⟩

/-- **A row is admitted** exactly when its name and its address are free. -/
theorem admits_newRow_iff (h : Inv crypto older T now d issued)
    (hrows : List.Forall₂ (Stores crypto S P) d.users.rows registered) {row : Row UserColumn}
    (hkey : row .id = .integer d.users.nextRowid) {p : UserRegister}
    (hrow : Stores crypto S P row ⟨p.username, cString (toLower p.email), p.password⟩) :
    d.users.admits (d.users.rows ++ [row]) = true ↔ Free registered p := by
  have hid : ∀ old ∈ d.users.rows, old .id ≠ row .id := by
    intro old hold heq
    obtain ⟨n, hn, hlt⟩ := h.users.key_lt old hold
    rw [h.usersKey] at hn
    have := Value.integer.inj (hn.symm.trans (heq.trans hkey))
    omega
  have hfree : (∀ old ∈ d.users.rows, old .username ≠ row .username ∧ old .email ≠ row .email) ↔
      Free registered p := by
    refine forall_stores hrows fun old r hold => and_congr ?_ ?_
    · rw [hold.username, hrow.username, ne_eq, Value.text.injEq]
    · rw [hold.email, hrow.email, ne_eq, Value.text.injEq, Registration.isOf, decide_eq_false_iff_not]
  rw [h.users.admits_concat_iff, ← hfree, h.usersColumns]
  constructor
  · intro hadmits old hold
    exact ⟨hadmits { name := .username, unique := true } (by simp [usersSchema]) rfl
        (by rw [hrow.username]; exact Value.noConfusion) old hold,
      hadmits { name := .email, unique := true } (by simp [usersSchema]) rfl
        (by rw [hrow.email]; exact Value.noConfusion) old hold⟩
  · intro hdiffer c hc hunique _ old hold
    simp only [usersSchema, List.mem_cons, List.not_mem_nil, or_false] at hc
    rcases hc with rfl | rfl | rfl | rfl | rfl | rfl | rfl
    · exact hid old hold
    · exact (hdiffer old hold).1
    · exact (hdiffer old hold).2
    all_goals cases hunique

/-- **Whoever registers** gets a valid name and address that are free. -/
theorem register_success_iff (h : Inv crypto older T now d issued)
    (hrows : List.Forall₂ (Stores crypto S P) d.users.rows registered) {env : Env}
    (hS : S (hex env.salt.val)) {p : UserRegister} (hP : P p.password) :
    (register crypto env now (some d) p).1.success = true ↔
      isValidUsername p.username = true ∧ isValidEmail (toLower p.email) = true ∧
        p.password ≠ [] ∧ env.usersRefusal = none ∧ Free registered p := by
  unfold register
  dsimp only
  by_cases hname : isValidUsername p.username = true
  · have hadmits := admits_newRow_iff h hrows
      (h.newUser p.username (toLower p.email) _ (hex env.salt.val)).1 (newRow_stores h hS hP hname)
    rw [if_neg (by simp [hname]), ← hadmits]
    by_cases hemail : isValidEmail (toLower p.email) = true
    · rw [if_neg (by simp [hemail])]
      by_cases hpassword : p.password = []
      · simp [hpassword]
      · rw [if_neg (by simp [hpassword]), if_pos (h.usersPrepares _)]
        have hinsert := @Table.insert_ok_iff _ _ d.users now (registeredValues crypto env p)
          env.usersRefusal
        unfold registeredValues at hinsert
        rw [← hinsert]
        split
        · next userId users hok =>
            exact iff_of_true rfl ⟨hname, hemail, hpassword, userId, users, hok⟩
        · next hrefused =>
            refine iff_of_false Bool.false_ne_true ?_
            rintro ⟨-, -, -, userId, users, hok⟩
            cases hrefused.symm.trans hok
        · next hrefused =>
            refine iff_of_false Bool.false_ne_true ?_
            rintro ⟨-, -, -, userId, users, hok⟩
            cases hrefused.symm.trans hok
    · rw [if_pos (by simpa using hemail)]
      simp [hemail]
  · rw [if_pos (by simpa using hname)]
    simp [hname]

/-! ## A login -/

/-- Only a registration changes `USERS`: no password is left to upgrade. -/
theorem act_users_of_stores {s : Accounts} (hd : s.db = some d)
    (hrows : List.Forall₂ (Stores crypto S P) d.users.rows registered) (env : Env)
    {request : Request} (hother : ∀ p, request ≠ .register p) :
    ∃ d', (act crypto s env request).db = some d' ∧ d'.users = d.users := by
  obtain ⟨db, tracker, clock, issued⟩ := s
  obtain rfl : db = some d := hd
  cases request with
  | register p => exact absurd rfl (hother p)
  | login remoteAddress p =>
      rcases login_cases crypto env clock tracker (some d) remoteAddress p with
        ⟨-, hdb, -⟩ | ⟨d', row, hd, hrow, -, -, hdb, -⟩
      · exact ⟨d, hdb, rfl⟩
      · obtain rfl := Option.some.inj hd
        obtain ⟨r, -, hstores⟩ := exists_stores hrows (findUser_some hrow).1
        refine ⟨_, hdb, ?_⟩
        rw [createSessionForUser_users]
        rcases verifyPassword_db crypto env d row p.password with hv | ⟨hlegacy, -⟩
        · rw [hv]
        · cases hlegacy.symm.trans hstores.isPbkdf2
  | tokenLogin p =>
      rcases tokenLogin_cases crypto (clock / second : Nat) d p with
        ⟨-, hdb⟩ | ⟨session, user, -, -, -, -, -, hdb⟩
      · simp only [List.mem_cons, List.not_mem_nil, or_false] at hdb
        rcases hdb with hdb | hdb
        · exact ⟨_, hdb, rfl⟩
        · exact ⟨_, hdb, pruneExpiredSessions_users _ _⟩
      · exact ⟨_, hdb, by simp⟩
  | logout p =>
      show ∃ d', logout crypto (some d) p = some d' ∧ d'.users = d.users
      unfold logout
      dsimp only
      split_ifs
      · exact ⟨d, rfl, rfl⟩
      · exact ⟨_, rfl, rfl⟩
      · exact ⟨d, rfl, rfl⟩
  | prune => exact ⟨_, rfl, pruneExpiredSessions_users _ _⟩
  | tick ns => exact ⟨d, rfl, rfl⟩

/-- **The rows are the registrations.** -/
structure Registry.Inv (crypto : Crypto) (older : Bool) (T S P : Bytes → Prop) (s : Registry) :
    Prop where
  accounts : s.accounts.Inv crypto older T
  rows : ∀ d ∈ s.accounts.db, List.Forall₂ (Stores crypto S P) d.users.rows s.registered
  addresses : (s.registered.map Registration.email).Nodup

/-- A registration adds a row and itself, or nothing. -/
theorem Registry.Inv.register {s : Registry} (h : s.Inv crypto older T S P) {env : Env}
    (hS : S (hex env.salt.val)) {p : UserRegister} (hP : P p.password) :
    (∀ d ∈ (act crypto s.accounts env (.register p)).db, List.Forall₂ (Stores crypto S P)
        d.users.rows (s.registered ++ registers crypto s.accounts env (.register p))) ∧
      ((s.registered ++ registers crypto s.accounts env (.register p)).map
        Registration.email).Nodup := by
  obtain ⟨d, hd, hinv⟩ := h.accounts
  have hrows := h.rows d hd
  have hregisters : registers crypto s.accounts env (.register p) =
      if (Master.register crypto env s.accounts.now s.accounts.db p).1.success then
        [⟨p.username, cString (toLower p.email), p.password⟩]
      else [] := rfl
  rcases register_cases crypto env s.accounts.now s.accounts.db p with
    ⟨hfail, hnone⟩ | ⟨d', userId, users, hd', hinsert, h'⟩
  · rw [hregisters, if_neg (by simp [hfail]), List.append_nil]
    refine ⟨fun after hafter => h.rows after ?_, h.addresses⟩
    exact (congrArg Prod.fst hnone).symm.trans hafter
  · obtain rfl := Option.some.inj (hd.symm.trans hd')
    have hsuccess : (Master.register crypto env s.accounts.now (some d) p).1.success = true := by
      rw [← hd, h']
    obtain ⟨hname, -, -, -, hfree⟩ := (register_success_iff hinv hrows hS hP).mp hsuccess
    obtain ⟨-, -, husers⟩ := Table.insert_ok hinsert
    rw [hregisters, hd, if_pos hsuccess, List.map_append, List.nodup_append]
    refine ⟨fun after hafter => ?_, h.addresses, List.nodup_singleton _, ?_⟩
    · obtain rfl := Option.some.inj ((congrArg (·.2.1) h').symm.trans hafter)
      rw [createSessionForUser_users, husers]
      exact List.rel_append hrows (.cons (newRow_stores hinv hS hP hname) .nil)
    · intro email hemail other hother heq
      obtain ⟨r, hr, rfl⟩ := List.mem_map.mp hemail
      obtain rfl := List.mem_singleton.mp hother
      exact Bool.false_ne_true ((hfree r hr).2.symm.trans (decide_eq_true heq))

/-- **Every request keeps it.** -/
theorem Registry.Inv.step
    (hinj : ∀ t t', T t → T t' → hashSessionToken crypto t = hashSessionToken crypto t' → t = t')
    {s t : Registry} {a : Env × Request} (h : s.Inv crypto older T S P)
    (hT : ∀ x ∈ tokens a, T x) (hS : S (hex a.1.salt.val)) (hP : ∀ x ∈ passwords a, P x)
    (hstep : registryStep crypto s a = some t) : t.Inv crypto older T S P := by
  obtain rfl := Option.some.inj hstep
  obtain ⟨env, request⟩ := a
  have haccounts : (act crypto s.accounts env request).Inv crypto older T :=
    inv_step hinj h.accounts hT rfl
  by_cases hregister : ∃ p, request = .register p
  · obtain ⟨p, rfl⟩ := hregister
    obtain ⟨hrows, haddresses⟩ := h.register hS (hP _ (List.mem_singleton_self _))
    exact ⟨haccounts, hrows, haddresses⟩
  · have hother : ∀ p, request ≠ .register p := fun p heq => hregister ⟨p, heq⟩
    have hnothing : registers crypto s.accounts env request = [] := by
      cases request with
      | register p => exact absurd rfl (hother p)
      | _ => rfl
    obtain ⟨d, hd, -⟩ := h.accounts
    obtain ⟨d', hd', husers⟩ := act_users_of_stores hd (h.rows d hd) env hother
    refine ⟨haccounts, fun after hafter => ?_, ?_⟩
    · obtain rfl := Option.some.inj (hd'.symm.trans hafter)
      rw [husers, hnothing, List.append_nil]
      exact h.rows d hd
    · rw [hnothing, List.append_nil]
      exact h.addresses

end Master
