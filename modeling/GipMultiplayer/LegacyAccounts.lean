import GipMultiplayer.MasterAccounts

/-!
# Accounts of older databases

A `USERS` table of an older version has no column `algo`, and perhaps no
column `salt`; its passwords are plain SHA-256 digests.  `setup` adds the
missing columns, and with `algo` it writes the default `pbkdf2` into every row
that exists.  A row with a salt is then taken for one stored by PBKDF2, and no
password opens it; a row without one goes through the older tests and is
upgraded at its first login.

* `Migrated` — what stays of the older rows along a run;
* `act_users` — what a request can do to `USERS`;
* `legacy_access` — the first login keeps the access to an account exactly when
  its row has no salt and is the first with its address.
-/

namespace Master

open Sql (Value Table Row Refusal)

/-! ## Older tables -/

/-- A `USERS` table of an older version: it has no column `algo`. -/
structure OlderUsers (t : Table UserColumn) : Prop where
  users : t.WellFormed
  key : t.key = .id
  columns : ∀ c ∈ [UserColumn.id, .username, .email, .password], c ∈ t.names
  algo : .algo ∉ t.names
  plain : ∀ c ∈ t.columns, c.unique = true → c.name ≠ .password ∧ c.name ≠ .salt

/-- An older row with the columns that `setup` adds. -/
def migratedRow (t : Table UserColumn) (row : Row UserColumn) : Row UserColumn :=
  Function.update (if .salt ∈ t.names then row else Function.update row .salt (.text []))
    .algo (.text pbkdf2)

/-- The salt of an older row; a row of a table without the column has none. -/
def legacySalt (t : Table UserColumn) (row : Row UserColumn) : Bytes :=
  columnText (migratedRow t row .salt)

/-- The digests that older versions stored of a password. -/
def LegacyHash (crypto : Crypto) (password salt stored : Bytes) : Prop :=
  stored = hashPasswordWithSalt crypto password salt ∨
    stored = hashPasswordWithSalt crypto (hashSessionToken crypto password) salt ∨
    stored = hashSessionToken crypto password

/-- A row of an older table that stores the password. -/
structure LegacyRow (crypto : Crypto) (t : Table UserColumn) (row : Row UserColumn)
    (password : Bytes) : Prop where
  older : OlderUsers t
  mem : row ∈ t.rows
  hash : ∃ stored, row .password = .text stored ∧
    LegacyHash crypto password (legacySalt t row) stored

/-- The accounts after `setup` on an older database. -/
def migrated (t : Table UserColumn) (sessions : Option (Table SessionColumn)) (clock : Nat) :
    Accounts where
  db := some (setup (clock / second : Nat) { users := some t, sessions := sessions })
  clock := clock

/-- The row stores the password by PBKDF2. -/
def Upgraded (crypto : Crypto) (row : Row UserColumn) (password : Bytes) : Prop :=
  isPbkdf2 (columnText (row .salt)) (columnText (row .algo)) = true ∧
    columnText (row .password) =
      hashPasswordPBKDF2 crypto password (columnText (row .salt))

/-- **The law of legacy accounts.**  The login succeeds and upgrades the row,
and every later login with the password, from an address that is not locked
out, succeeds. -/
def KeepsAccess (crypto : Crypto) (s : Accounts) (row : Row UserColumn) (env : Env)
    (remoteAddress : Bytes) (p : UserLogin) : Prop :=
  (login crypto env s.clock s.tracker s.db remoteAddress p).res.success = true ∧
  (∃ d, (act crypto s env (.login remoteAddress p)).db = some d ∧
    ∃ row' ∈ d.users.rows, row' .id = row .id ∧ Upgraded crypto row' p.password) ∧
  ∀ s', Exec.Reached (step crypto) (act crypto s env (.login remoteAddress p)) s' →
    ∀ env' remoteAddress' p', p'.password = p.password → p'.email ≠ [] →
      bindText (toLower p'.email) = lower (row .email) →
      s'.tracker.isLockedOut s'.clock (clientIp remoteAddress') = none →
      (login crypto env' s'.clock s'.tracker s'.db remoteAddress' p').res.success = true

/-! ## The migrated table -/

section

variable {crypto : Crypto} {t : Table UserColumn} {row : Row UserColumn}

/-- The migration writes `salt` and `algo` only. -/
theorem migratedRow_of_ne {c : UserColumn} (hsalt : c ≠ .salt) (halgo : c ≠ .algo) :
    migratedRow t row c = row c := by
  rw [migratedRow, Function.update_of_ne halgo]
  split
  · rfl
  · rw [Function.update_of_ne hsalt]

@[simp] theorem migratedRow_algo : migratedRow t row .algo = .text pbkdf2 := by
  simp [migratedRow]

/-- The salt column does not hide that the column `algo` is missing. -/
theorem OlderUsers.algo_addColumn (h : OlderUsers t) (v : Value) :
    .algo ∉ (t.addColumn .salt v).names := by
  rw [Table.mem_names_addColumn]
  exact fun hm => hm.elim h.algo fun e => by cases e

/-- What the migration makes of the rows. -/
theorem OlderUsers.rows_migrated (h : OlderUsers t) :
    ((t.addColumn .salt (.text [])).addColumn .algo (.text pbkdf2)).rows =
      t.rows.map (migratedRow t) := by
  rw [Table.rows_addColumn, if_neg (h.algo_addColumn _), Table.rows_addColumn]
  by_cases hsalt : UserColumn.salt ∈ t.names
  · rw [if_pos hsalt]
    exact List.map_congr_left fun row _ => by rw [migratedRow, if_pos hsalt]
  · rw [if_neg hsalt, List.map_map]
    exact List.map_congr_left fun row _ => by
      rw [Function.comp_apply, migratedRow, if_neg hsalt]

/-- What stays of the older rows: they come first, with their ids and
addresses. -/
structure Migrated (t : Table UserColumn) (d : Database) : Prop where
  users : d.users.WellFormed
  key : d.users.key = .id
  columns : ∀ c ∈ [UserColumn.id, .username, .email, .password, .salt, .algo], c ∈ d.users.names
  plain : ∀ c ∈ d.users.columns, c.unique = true →
    c.name ≠ .password ∧ c.name ≠ .salt ∧ c.name ≠ .algo
  order : t.rows.map (fun row => (row .id, row .email)) <+:
    d.users.rows.map (fun row => (row .id, row .email))

/-- `setup` migrates an older table. -/
theorem migrated_start (h : OlderUsers t) (sessions : Option (Table SessionColumn))
    (clock : Nat) :
    ∃ d, (migrated t sessions clock).db = some d ∧ Migrated t d ∧
      d.users.rows = t.rows.map (migratedRow t) := by
  have husers : (setup (clock / second : Nat) { users := some t, sessions := sessions }).users =
      (t.addColumn .salt (.text [])).addColumn .algo (.text pbkdf2) := by
    simp only [setup, pruneExpiredSessions, Option.getD_some]
    split <;> rfl
  refine ⟨_, rfl, ?_, by rw [husers, h.rows_migrated]⟩
  constructor
  · rw [husers]
    have hkey : t.key ∈ t.names := by
      rw [h.key]
      exact h.columns _ (by simp)
    refine (h.users.addColumn hkey _ _).addColumn ?_ _ _
    rw [Table.key_addColumn]
    exact Table.mem_names_addColumn.mpr (Or.inl hkey)
  · rw [husers, Table.key_addColumn, Table.key_addColumn, h.key]
  · intro c hc
    rw [husers, Table.mem_names_addColumn, Table.mem_names_addColumn]
    have hold := h.columns c
    cases c <;> simp_all
  · intro c hc hunique
    rw [husers] at hc
    rcases Table.mem_columns_addColumn hc with hc | ⟨-, hplain⟩
    · rcases Table.mem_columns_addColumn hc with hc | ⟨-, hplain⟩
      · exact ⟨(h.plain c hc hunique).1, (h.plain c hc hunique).2,
          fun e => h.algo (e ▸ List.mem_map.mpr ⟨c, hc, rfl⟩)⟩
      · rw [hplain] at hunique
        cases hunique
    · rw [hplain] at hunique
      cases hunique
  · have hsame : (t.rows.map (migratedRow t)).map (fun row => (row .id, row .email)) =
        t.rows.map fun row => (row .id, row .email) := by
      rw [List.map_map]
      refine List.map_congr_left fun row _ => ?_
      rw [Function.comp_apply, migratedRow_of_ne (by decide) (by decide),
        migratedRow_of_ne (by decide) (by decide)]
    rw [husers, h.rows_migrated]
    exact ⟨[], by rw [List.append_nil, hsame]⟩

end

/-! ## What a request does to the accounts -/

/-- A request leaves `USERS` alone, inserts a row, or upgrades a row that is
not stored by PBKDF2. -/
theorem act_users (crypto : Crypto) {s : Accounts} {d : Database} (h : s.db = some d) (env : Env)
    (request : Request) :
    ∃ d', (act crypto s env request).db = some d' ∧
      (d'.users = d.users ∨
        (∃ now id values refusal, d.users.insert now values refusal = .ok (id, d'.users)) ∨
        ∃ row email password, findUser d email = some row ∧
          isPbkdf2 (columnText (row .salt)) (columnText (row .algo)) = false ∧
          d'.users = (upgrade crypto env d (columnInt64 (row .id)) password).users) := by
  obtain ⟨db, tracker, clock, issued⟩ := s
  obtain rfl : db = some d := h
  cases request with
  | register p =>
      rcases register_cases crypto env (clock / second : Nat) (some d) p with
        ⟨-, hnone⟩ | ⟨d', userId, users, hd, hinsert, h'⟩
      · exact ⟨d, congrArg Prod.fst hnone, Or.inl rfl⟩
      · obtain rfl := Option.some.inj hd
        refine ⟨_, congrArg (·.2.1) h', ?_⟩
        rw [createSessionForUser_users]
        exact Or.inr (Or.inl ⟨_, userId, _, _, hinsert⟩)
  | login remoteAddress p =>
      rcases login_cases crypto env clock tracker (some d) remoteAddress p with
        ⟨-, hdb, -⟩ | ⟨d', row, hd, hrow, -, -, hdb, -⟩
      · exact ⟨d, hdb, Or.inl rfl⟩
      · obtain rfl := Option.some.inj hd
        refine ⟨_, hdb, ?_⟩
        rw [createSessionForUser_users]
        rcases verifyPassword_db crypto env d row p.password with hv | ⟨hlegacy, hv⟩
        · exact Or.inl (by rw [hv])
        · exact Or.inr (Or.inr ⟨row, _, p.password, hrow, hlegacy, by rw [hv]⟩)
  | tokenLogin p =>
      rcases tokenLogin_cases crypto (clock / second : Nat) d p with
        ⟨-, hdb⟩ | ⟨session, user, -, -, -, -, -, hdb⟩
      · simp only [List.mem_cons, List.not_mem_nil, or_false] at hdb
        rcases hdb with hdb | hdb
        · exact ⟨_, hdb, Or.inl rfl⟩
        · exact ⟨_, hdb, Or.inl (pruneExpiredSessions_users _ _)⟩
      · exact ⟨_, hdb, Or.inl (by simp)⟩
  | logout p =>
      show ∃ d', logout crypto (some d) p = some d' ∧ _
      unfold logout
      dsimp only
      split
      · exact ⟨d, rfl, Or.inl rfl⟩
      split
      · exact ⟨_, rfl, Or.inl rfl⟩
      · exact ⟨d, rfl, Or.inl rfl⟩
  | prune => exact ⟨_, rfl, Or.inl (pruneExpiredSessions_users _ _)⟩
  | tick ns => exact ⟨d, rfl, Or.inl rfl⟩

namespace Migrated

variable {crypto : Crypto} {t : Table UserColumn} {d d' : Database}

/-- The statements of a password login prepare. -/
theorem prepares (h : Migrated t d) {cs : List UserColumn}
    (hcs : cs ⊆ [UserColumn.id, .username, .email, .password, .salt, .algo]) :
    d.users.prepares cs = true :=
  Table.prepares_iff.mpr fun c hc => h.columns c (hcs hc)

/-- The upgrade of the row with one id. -/
theorem upgrade_rows (h : Migrated t d) (crypto : Crypto) (env : Env) (userId : Int) (password : Bytes) :
    (upgrade crypto env d userId password).users.rows = d.users.rows.map fun row =>
      if sqlEq (row .id) (.integer userId) then
        row.assign
          [ (.password, bindText (hashPasswordPBKDF2 crypto password (hex env.salt.val))),
            (.salt, bindText (hex env.salt.val)), (.algo, .text pbkdf2) ]
      else row := by
  rw [upgrade, if_pos (h.prepares (by simp))]
  refine Table.rows_update h.users fun c hc hunique row _ _ => ?_
  obtain ⟨hpassword, hsalt, halgo⟩ := h.plain c hc hunique
  exact Row.assign_of_notMem (by simp [hpassword, hsalt, halgo]) row

/-- An upgrade keeps the older rows in their place. -/
theorem upgrade (h : Migrated t d) {env : Env} {userId : Int} {password : Bytes}
    (husers : d'.users = (upgrade crypto env d userId password).users) : Migrated t d' := by
  have hrows := h.upgrade_rows crypto env userId password
  rw [← husers] at hrows
  rw [Master.upgrade, if_pos (h.prepares (by simp))] at husers
  dsimp only at husers
  obtain ⟨hcolumns, hkey, -⟩ := d.users.update_frame
    [ (.password, bindText (hashPasswordPBKDF2 crypto password (hex env.salt.val))),
      (.salt, bindText (hex env.salt.val)), (.algo, .text pbkdf2) ]
    fun row => sqlEq (row .id) (.integer userId)
  rw [← husers] at hcolumns hkey
  constructor
  · rw [husers]
    exact h.users.update (by simp [h.key]) _
  · rw [hkey, h.key]
  · intro c hc
    rw [Table.names, hcolumns]
    exact h.columns c hc
  · rw [hcolumns]
    exact h.plain
  · have hsame : d'.users.rows.map (fun row => (row .id, row .email)) =
        d.users.rows.map fun row => (row .id, row .email) := by
      rw [hrows, List.map_map]
      refine List.map_congr_left fun row _ => ?_
      rw [Function.comp_apply]
      split
      · rw [Row.assign_of_notMem (by simp), Row.assign_of_notMem (by simp)]
      · rfl
    rw [hsame]
    exact h.order

/-- An insertion leaves the older rows in their place. -/
theorem insert (h : Migrated t d) {now id : Int} {values : List (UserColumn × Value)}
    {refusal : Option Refusal} (hinsert : d.users.insert now values refusal = .ok (id, d'.users)) :
    Migrated t d' := by
  have hwf := h.users.insert hinsert
  obtain ⟨-, -, husers⟩ := Table.insert_ok hinsert
  constructor
  · exact hwf
  · rw [husers]
    exact h.key
  · rw [husers]
    exact h.columns
  · rw [husers]
    exact h.plain
  · rw [husers, List.map_append]
    exact h.order.trans (List.prefix_append _ _)

/-- A password login looks at the first row of the older table with the
address. -/
theorem findUser_first (h : Migrated t d) {row : Row UserColumn} (hrow : row ∈ t.rows)
    {email : Bytes} (hemail : bindText email = lower (row .email)) :
    ∃ first found,
      t.rows.find? (fun other => sqlEq (lower (other .email)) (lower (row .email))) = some first ∧
      findUser d email = some found ∧ found .id = first .id := by
  let pair : Row UserColumn → Value × Value := fun other => (other .id, other .email)
  let q : Value × Value → Bool := fun v => sqlEq (lower v.2) (lower (row .email))
  have hmatch : sqlEq (lower (row .email)) (lower (row .email)) = true := by
    rw [← hemail]
    simp [bindText]
  obtain ⟨first, hfirst⟩ : ∃ first, t.rows.find? (q ∘ pair) = some first :=
    Option.isSome_iff_exists.mp (List.find?_isSome.mpr ⟨row, hrow, hmatch⟩)
  have hold : (t.rows.map pair).find? q = some (pair first) := by
    rw [List.find?_map, hfirst]
    rfl
  have hnew : (d.users.rows.map pair).find? q = some (pair first) :=
    h.order.find?_eq_some hold
  rw [List.find?_map, Option.map_eq_some_iff] at hnew
  obtain ⟨found, hfound, hpair⟩ := hnew
  refine ⟨first, found, hfirst, ?_, congrArg Prod.fst hpair⟩
  rw [findUser, Table.select, hemail]
  exact hfound

/-- Rows with one id are one row. -/
theorem eq_of_id (h : Migrated t d) {row other : Row UserColumn} (hrow : row ∈ d.users.rows)
    (hother : other ∈ d.users.rows) (hid : row .id = other .id) : row = other :=
  h.users.eq_of_key hrow hother (by rw [h.key]; exact hid)

/-- The row ids are integers. -/
theorem id_eq (h : Migrated t d) {row : Row UserColumn} (hrow : row ∈ d.users.rows) :
    row .id = .integer (columnInt64 (row .id)) := by
  obtain ⟨n, hn, -⟩ := h.users.key_lt row hrow
  rw [h.key] at hn
  rw [hn]
  rfl

/-- An upgrade leaves the rows with other ids alone. -/
theorem mem_of_upgrade (h : Migrated t d) {env : Env} {found row : Row UserColumn}
    (hfound : found ∈ d.users.rows) (hrow : row ∈ d.users.rows) (hne : row .id ≠ found .id)
    {password : Bytes}
    (husers : d'.users = (Master.upgrade crypto env d (columnInt64 (found .id)) password).users) :
    row ∈ d'.users.rows := by
  rw [husers, h.upgrade_rows]
  refine List.mem_map.mpr ⟨row, hrow, if_neg fun hmatch => hne ?_⟩
  rw [h.id_eq hfound]
  exact (sqlEq_iff.mp hmatch).2

/-- An upgrade stores the password by PBKDF2. -/
theorem upgraded_of_upgrade (h : Migrated t d) {env : Env} {found : Row UserColumn}
    (hfound : found ∈ d.users.rows) {password : Bytes}
    (husers : d'.users = (Master.upgrade crypto env d (columnInt64 (found .id)) password).users) :
    ∃ row' ∈ d'.users.rows, row' .id = found .id ∧ Upgraded crypto row' password := by
  have hid : sqlEq (found .id) (.integer (columnInt64 (found .id))) = true := by
    rw [← h.id_eq hfound, sqlEq_iff]
    exact ⟨by rw [h.id_eq hfound]; exact Value.noConfusion, rfl⟩
  rw [husers, h.upgrade_rows]
  refine ⟨_, List.mem_map.mpr ⟨found, hfound, if_pos hid⟩, Row.assign_of_notMem (by simp) _, ?_⟩
  simp [Upgraded, Row.assign, Function.update, isPbkdf2, bindText, columnText, hex_ne_nil,
    hashPasswordPBKDF2]

/-- Every request keeps what stays of the older rows. -/
theorem act (crypto : Crypto) {s : Accounts} (hd : s.db = some d) (h : Migrated t d) (env : Env)
    (request : Request) :
    ∃ d', (Master.act crypto s env request).db = some d' ∧ Migrated t d' := by
  obtain ⟨d', hd', husers | ⟨_, _, _, _, hinsert⟩ | ⟨_, _, _, _, _, husers⟩⟩ :=
    act_users crypto hd env request
  · exact ⟨d', hd', ⟨husers ▸ h.users, husers ▸ h.key, husers ▸ h.columns, husers ▸ h.plain,
      husers ▸ h.order⟩⟩
  · exact ⟨d', hd', h.insert hinsert⟩
  · exact ⟨d', hd', h.upgrade husers⟩

/-- Every request keeps a row that is stored by PBKDF2. -/
theorem act_upgraded {s : Accounts} (hd : s.db = some d) (h : Migrated t d) (env : Env)
    (request : Request) {row : Row UserColumn} (hrow : row ∈ d.users.rows) {password : Bytes}
    (hupgraded : Upgraded crypto row password)
    (hd' : (Master.act crypto s env request).db = some d') : row ∈ d'.users.rows := by
  obtain ⟨_, hd'', hcases⟩ := act_users crypto hd env request
  obtain rfl := Option.some.inj (hd'.symm.trans hd'')
  rcases hcases with husers | ⟨_, _, _, _, hinsert⟩ | ⟨found, _, _, hfound, hlegacy, husers⟩
  · rw [husers]
    exact hrow
  · rw [(Table.insert_ok hinsert).2.2]
    exact List.mem_append_left _ hrow
  · obtain ⟨hmem, -⟩ := findUser_some hfound
    refine h.mem_of_upgrade hmem hrow (fun hid => ?_) husers
    rw [h.eq_of_id hrow hmem hid] at hupgraded
    rw [hupgraded.1] at hlegacy
    cases hlegacy

end Migrated

/-! ## The check of a legacy password -/

section

variable {crypto : Crypto} {t : Table UserColumn} {row : Row UserColumn} {password : Bytes}

/-- The digest that an older version stored passes the older tests. -/
theorem legacyMatch_of_hash {salt stored : Bytes} (h : LegacyHash crypto password salt stored) :
    legacyMatch crypto password salt stored = true := by
  unfold legacyMatch
  split
  · rfl
  · rcases h with rfl | rfl | rfl
    · simp_all
    · simp
    · simp

/-- The digest that an older version stored is not one of PBKDF2. -/
theorem legacyHash_ne (hdistinct : ∀ password salt iterations text,
      crypto.pbkdf2Hmac password salt iterations ≠ crypto.sha256 text)
    {salt stored : Bytes} (h : LegacyHash crypto password salt stored) (password' salt' : Bytes) :
    hashPasswordPBKDF2 crypto password' salt' ≠ stored := by
  have hsha : ∃ text, stored = hex (crypto.sha256 text) := by
    rcases h with rfl | rfl | rfl
    · exact ⟨_, rfl⟩
    · exact ⟨_, rfl⟩
    · exact ⟨_, rfl⟩
  obtain ⟨text, rfl⟩ := hsha
  exact fun heq => hdistinct _ _ _ _ (hex_injective heq)

/-- What a legacy row stores after the migration. -/
theorem LegacyRow.stored (h : LegacyRow crypto t row password) :
    LegacyHash crypto password (columnText (migratedRow t row .salt))
      (columnText (migratedRow t row .password)) := by
  obtain ⟨stored, hstored, hhash⟩ := h.hash
  have hpassword : migratedRow t row .password = .text stored :=
    (migratedRow_of_ne (by decide) (by decide)).trans hstored
  rw [hpassword]
  exact hhash

/-- A legacy row with a salt is taken for one stored by PBKDF2, and its
password is refused. -/
theorem verifyPassword_salted (h : LegacyRow crypto t row password)
    (hdistinct : ∀ password salt iterations text,
      crypto.pbkdf2Hmac password salt iterations ≠ crypto.sha256 text)
    (hsalt : legacySalt t row ≠ []) (env : Env) (d : Database) :
    (verifyPassword crypto env d (migratedRow t row) password).1 = false := by
  have hpbkdf2 : isPbkdf2 (columnText (migratedRow t row .salt))
      (columnText (migratedRow t row .algo)) = true := by
    rw [legacySalt] at hsalt
    rw [migratedRow_algo, isPbkdf2, columnText]
    simp [hsalt]
  unfold verifyPassword
  dsimp only
  rw [if_pos hpbkdf2]
  exact decide_eq_false (legacyHash_ne hdistinct h.stored _ _)

/-- A legacy row without a salt passes the older tests and is upgraded. -/
theorem verifyPassword_unsalted (h : LegacyRow crypto t row password)
    (hsalt : legacySalt t row = []) (env : Env) (d : Database) :
    verifyPassword crypto env d (migratedRow t row) password =
      (true, upgrade crypto env d (columnInt64 (migratedRow t row .id)) password) := by
  have hpbkdf2 : ¬ isPbkdf2 (columnText (migratedRow t row .salt))
      (columnText (migratedRow t row .algo)) = true := by
    rw [legacySalt] at hsalt
    simp [isPbkdf2, hsalt]
  unfold verifyPassword
  dsimp only
  rw [if_neg hpbkdf2, if_pos (legacyMatch_of_hash h.stored)]

/-- A row that is stored by PBKDF2 opens with its password. -/
theorem verifyPassword_upgraded (h : Upgraded crypto row password) (env : Env) (d : Database) :
    (verifyPassword crypto env d row password).1 = true := by
  unfold verifyPassword
  dsimp only
  rw [if_pos h.1]
  exact decide_eq_true h.2.symm

/-! ## Runs -/

/-- What stays of the older rows stays along a run. -/
theorem Migrated.reached {s s' : Accounts} (hs : ∃ d, s.db = some d ∧ Migrated t d)
    (h : Exec.Reached (step crypto) s s') : ∃ d, s'.db = some d ∧ Migrated t d := by
  refine h.invariant (fun s => ∃ d, s.db = some d ∧ Migrated t d) hs ?_
  rintro s ⟨env, request⟩ s' ⟨d, hd, hmigrated⟩ hstep
  obtain rfl := Option.some.inj hstep
  exact hmigrated.act _ hd env request

/-- A row that is stored by PBKDF2 stays along a run. -/
theorem Migrated.reached_upgraded {s s' : Accounts} (hupgraded : Upgraded crypto row password)
    (hs : ∃ d, s.db = some d ∧ Migrated t d ∧ row ∈ d.users.rows)
    (h : Exec.Reached (step crypto) s s') :
    ∃ d, s'.db = some d ∧ Migrated t d ∧ row ∈ d.users.rows := by
  refine h.invariant (fun s => ∃ d, s.db = some d ∧ Migrated t d ∧ row ∈ d.users.rows) hs ?_
  rintro s ⟨env, request⟩ s' ⟨d, hd, hmigrated, hrow⟩ hstep
  obtain rfl := Option.some.inj hstep
  obtain ⟨d', hd', hmigrated'⟩ := hmigrated.act crypto hd env request
  exact ⟨d', hd', hmigrated', hmigrated.act_upgraded hd env request hrow hupgraded hd'⟩

/-- A row that is the first of its address is the one a login looks at. -/
theorem Migrated.findUser_eq {d : Database} (h : Migrated t d) (hrow : row ∈ t.rows)
    (hfirst : t.rows.find? (fun other => sqlEq (lower (other .email)) (lower (row .email)))
      = some row)
    {email : Bytes} (hemail : bindText email = lower (row .email)) {stands : Row UserColumn}
    (hstands : stands ∈ d.users.rows) (hid : stands .id = row .id) :
    findUser d email = some stands := by
  obtain ⟨first, found, hfirst', hfound, hfoundId⟩ := h.findUser_first hrow hemail
  obtain rfl := Option.some.inj (hfirst.symm.trans hfirst')
  rw [hfound, h.eq_of_id (findUser_some hfound).1 hstands (hfoundId.trans hid.symm)]

/-- **The law of legacy accounts, as far as the code keeps it.**  Whatever was
requested since `setup`, as long as the migrated row stands, a login with its
password from an address that is not locked out keeps the access to the
account exactly when the row has no salt, neither address nor password is
empty, and no earlier row has the same address but for case. -/
theorem legacy_access (crypto : Crypto)
    (hdistinct : ∀ password salt iterations text,
      crypto.pbkdf2Hmac password salt iterations ≠ crypto.sha256 text)
    (t : Table UserColumn) (sessions : Option (Table SessionColumn)) (clock : Nat)
    (row : Row UserColumn) (p : UserLogin) (hlegacy : LegacyRow crypto t row p.password)
    (s : Accounts) (hs : Exec.Reached (step crypto) (migrated t sessions clock) s)
    (hstands : ∃ d ∈ s.db, migratedRow t row ∈ d.users.rows)
    (hemail : bindText (toLower p.email) = lower (row .email)) (env : Env) (remoteAddress : Bytes)
    (hlock : s.tracker.isLockedOut s.clock (clientIp remoteAddress) = none) :
    KeepsAccess crypto s row env remoteAddress p ↔
      legacySalt t row = [] ∧ p.email ≠ [] ∧ p.password ≠ [] ∧
        t.rows.find? (fun other => sqlEq (lower (other .email)) (lower (row .email)))
          = some row := by
  obtain ⟨d₀, hd₀, hmigrated₀, -⟩ := migrated_start hlegacy.older sessions clock
  obtain ⟨d, hd, hmigrated⟩ := Migrated.reached ⟨d₀, hd₀, hmigrated₀⟩ hs
  obtain ⟨d', hd', hrow⟩ := hstands
  obtain rfl := Option.some.inj (hd.symm.trans hd')
  have hid : migratedRow t row .id = row .id := migratedRow_of_ne (by decide) (by decide)
  have hprepares : d.users.prepares [.id, .username, .password, .salt, .algo, .email] = true :=
    hmigrated.prepares (by simp)
  constructor
  · rintro ⟨hsuccess, ⟨d₁, hd₁, row₁, hrow₁, hid₁, hupgraded⟩, -⟩
    rw [hd] at hsuccess
    obtain ⟨hemailNe, hpasswordNe⟩ := login_nonempty hsuccess
    obtain ⟨first, found, hfirst, hfound, hfoundId⟩ := hmigrated.findUser_first hlegacy.mem hemail
    obtain ⟨hres, d₂, hd₂, husers⟩ := login_of_found crypto env
      hlock hemailNe hpasswordNe hprepares hfound
    rw [hres] at hsuccess
    have hd₂₁ : d₂ = d₁ := by
      have hafter : (login crypto env s.clock s.tracker s.db remoteAddress p).db = some d₁ := hd₁
      rw [hd] at hafter
      exact Option.some.inj (hd₂.symm.trans hafter)
    subst hd₂₁
    obtain ⟨hmem, -⟩ := findUser_some hfound
    -- the row that was looked at is the legacy row, since that one was upgraded
    have hsame : found = migratedRow t row := by
      by_contra hne
      have hidNe : migratedRow t row .id ≠ found .id := fun e =>
        hne (hmigrated.eq_of_id hmem hrow e.symm)
      have hunchanged : migratedRow t row ∈ d₂.users.rows := by
        rcases verifyPassword_db crypto env d found p.password with hv | ⟨-, hv⟩
        · rw [husers, hv]
          exact hrow
        · exact hmigrated.mem_of_upgrade hmem hrow hidNe (husers.trans (by rw [hv]))
      obtain ⟨d₃, hd₃, hmigrated₃⟩ := hmigrated.act crypto hd env
        (.login remoteAddress p)
      obtain rfl := Option.some.inj (hd₁.symm.trans hd₃)
      rw [hmigrated₃.eq_of_id hrow₁ hunchanged (hid₁.trans hid.symm)] at hupgraded
      exact legacyHash_ne hdistinct hlegacy.stored _ _ hupgraded.2.symm
    rw [hsame] at hfoundId hsuccess
    refine ⟨?_, hemailNe, hpasswordNe, ?_⟩
    · by_contra hsalt
      rw [verifyPassword_salted hlegacy hdistinct hsalt] at hsuccess
      cases hsuccess
    · have hfirstRow : first = row :=
        hlegacy.older.users.eq_of_key (List.mem_of_find?_eq_some hfirst) hlegacy.mem
          (by rw [hlegacy.older.key, ← hfoundId, hid])
      rw [hfirst, hfirstRow]
  · rintro ⟨hsalt, hemailNe, hpasswordNe, hfirst⟩
    have hfound := hmigrated.findUser_eq hlegacy.mem hfirst hemail hrow hid
    obtain ⟨hres, d₁, hd₁, husers⟩ := login_of_found crypto env
      hlock hemailNe hpasswordNe hprepares hfound
    rw [verifyPassword_unsalted hlegacy hsalt] at hres husers
    rw [← hd] at hres hd₁
    obtain ⟨row₁, hrow₁, hid₁, hupgraded⟩ := hmigrated.upgraded_of_upgrade hrow husers
    rw [hid] at hid₁
    refine ⟨hres, ⟨d₁, hd₁, row₁, hrow₁, hid₁, hupgraded⟩, ?_⟩
    intro s' hs' env' remoteAddress' p' hpassword hemailNe' hemail' hlock'
    obtain ⟨d₃, hd₃, hmigrated₃⟩ := hmigrated.act crypto hd env
      (.login remoteAddress p)
    obtain rfl := Option.some.inj (hd₁.symm.trans hd₃)
    obtain ⟨d₂, hd₂, hmigrated₂, hrow₂⟩ :=
      Migrated.reached_upgraded hupgraded ⟨d₁, hd₁, hmigrated₃, hrow₁⟩ hs'
    rw [hd₂]
    obtain ⟨hres', -⟩ := login_of_found crypto env'
      hlock' hemailNe' (hpassword ▸ hpasswordNe)
      (hmigrated₂.prepares (by simp)) (hmigrated₂.findUser_eq hlegacy.mem hfirst hemail' hrow₂ hid₁)
    rw [hres', hpassword]
    exact verifyPassword_upgraded hupgraded env' d₂

end

/-- The user `bob` with the password `p`, stored by an older version with a
salt. -/
def legacyBob (salt : Bytes) : Row UserColumn
  | .id => .integer 1
  | .username => .text [98, 111, 98]
  | .email => .text [98, 64, 120, 46, 121]
  | .password => .text (hashPasswordWithSalt sampleCrypto [112] salt)
  | .salt => .text salt
  | _ => .null

/-- An older `USERS` table with one user. -/
def legacyUsers (salt : Bytes) : Table UserColumn where
  key := .id
  columns :=
    [ { name := .id, unique := true }, { name := .username, unique := true },
      { name := .email, unique := true }, { name := .password }, { name := .salt } ]
  rows := [legacyBob salt]
  nextRowid := 2

/-- The user of an older table stores the password. -/
theorem legacyBob_row (salt : Bytes) :
    LegacyRow sampleCrypto (legacyUsers salt) (legacyBob salt) [112] := by
  refine ⟨⟨⟨?_, ?_, ?_⟩, rfl, by simp [legacyUsers, Table.names],
    by simp [legacyUsers, Table.names], by simp [legacyUsers]⟩, ?_, ?_⟩
  · simp [legacyUsers, legacyBob]
  · simp [legacyUsers]
  · simp [legacyUsers, Table.admits, legacyBob]
  · simp [legacyUsers]
  · exact ⟨_, rfl, Or.inl rfl⟩

/-- The login of `bob`. -/
def legacyLogin : UserLogin where
  email := [98, 64, 120, 46, 121]
  password := [112]

/-- The environment of the login of `bob`. -/
def legacyEnv : Env where
  salt := ⟨List.replicate 16 1, rfl⟩
  token := ⟨List.replicate 32 1, rfl⟩

/-- A user whose older row has no salt keeps the account. -/
theorem legacy_access_unsalted :
    KeepsAccess sampleCrypto (migrated (legacyUsers []) none 0) (legacyBob []) legacyEnv []
      legacyLogin :=
  (legacy_access sampleCrypto (by simp [sampleCrypto]) (legacyUsers []) none 0 (legacyBob [])
    legacyLogin (legacyBob_row []) (migrated (legacyUsers []) none 0) ⟨[], rfl⟩
    ⟨_, rfl, List.mem_cons_self⟩ rfl legacyEnv [] rfl).mpr
    ⟨rfl, by decide, by decide, rfl⟩

/-- A user whose older row has a salt is locked out. -/
theorem legacy_access_salted :
    LegacyRow sampleCrypto (legacyUsers [97, 98]) (legacyBob [97, 98]) legacyLogin.password ∧
      ¬ KeepsAccess sampleCrypto (migrated (legacyUsers [97, 98]) none 0) (legacyBob [97, 98])
        legacyEnv [] legacyLogin := by
  refine ⟨legacyBob_row [97, 98], fun h => ?_⟩
  have hrefused : (login sampleCrypto legacyEnv 0 ∅
      (migrated (legacyUsers [97, 98]) none 0).db [] legacyLogin).res.success = false := by
    decide +kernel
  exact Bool.false_ne_true (hrefused.symm.trans h.1)

end Master
