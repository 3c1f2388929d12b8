import Mathlib.Data.List.AList
import Sip3.Response
import Sip3.Text.Utf8

/-!
# Administration of accounts

`api/accounts.rs`: accounts are created, updated and deleted over the API. An account keeps the
digest `MD5(username:realm:password)` that the registrar compares credentials with. The realm in
it is `auth.realm` of the configuration, whatever the domain of the account is.
-/

namespace Sip3.Accounts

open Text

/-- What the handlers use of a row of `sip_accounts`. -/
structure Account where
  username : Str
  passwordHash : Str
  ha1Hash : Option Str
  displayName : Option Str
  domain : Str
  enabled : Int
  deriving DecidableEq

/-- The columns of `uniq_username_domain`. -/
def Account.key (account : Account) : Str × Str := (account.username, account.domain)

/-- The table, with the next value of its `AUTO_INCREMENT` column. -/
structure Table where
  rows : AList fun _ : Nat => Account
  nextId : Nat
  fresh : ∀ id ∈ rows, id < nextId
  unique : ∀ {left right : Nat} {first second : Account}, rows.lookup left = some first →
    rows.lookup right = some second → first.key = second.key → left = right

/-- `CreateAccount`. -/
structure CreateAccount where
  username : Str
  password : Str
  displayName : Option Str
  domain : Option Str

/-- `UpdateAccount`. -/
structure UpdateAccount where
  password : Option Str
  displayName : Option Str
  domain : Option Str
  enabled : Option Int

/-- What is decided outside during a request: `bcrypt::hash`, which may fail with a text, the error
of the statements, if they are not carried out, and the text for a duplicate key. -/
structure Outcome where
  hash : Str → Except Str Str
  failure : Option Str
  duplicate : Str

namespace Table

variable (table : Table)

/-- No accounts. -/
def empty : Table where
  rows := ∅
  nextId := 1
  fresh := nofun
  unique := nofun

/-- Whether another row has the key. -/
def taken (own : Nat) (key : Str × Str) : Bool :=
  table.rows.entries.any fun entry => entry.1 ≠ own && entry.2.key = key

variable {table} {account : Account}

theorem eq_of_not_taken {own id : Nat} {key : Str × Str} (free : table.taken own key = false)
    (found : table.rows.lookup id = some account) (same : account.key = key) : id = own := by
  by_contra other
  have listed := AList.mem_lookup_iff.mp found
  have passed := List.any_eq_false.mp free _ listed
  simp [other, same] at passed

variable (table)

/-- Write a row, unless another one has its key. -/
def write (id : Nat) (account : Account) : Option Table :=
  if free : table.taken id account.key = false then
    some
      { rows := table.rows.insert id account
        nextId := max table.nextId (id + 1)
        fresh := by
          intro other member
          rcases (AList.mem_insert _).mp member with rfl | old
          · omega
          · have := table.fresh other old
            omega
        unique := by
          intro left right first second here there same
          by_cases leftNew : left = id <;> by_cases rightNew : right = id
          · exact leftNew.trans rightNew.symm
          · subst leftNew
            rw [AList.lookup_insert] at here
            rw [AList.lookup_insert_ne rightNew] at there
            obtain rfl := Option.some.inj here
            exact (eq_of_not_taken free there same.symm).symm
          · subst rightNew
            rw [AList.lookup_insert] at there
            rw [AList.lookup_insert_ne leftNew] at here
            obtain rfl := Option.some.inj there
            exact eq_of_not_taken free here same
          · rw [AList.lookup_insert_ne leftNew] at here
            rw [AList.lookup_insert_ne rightNew] at there
            exact table.unique here there same }
  else none

/-- Remove a row. -/
def erase (id : Nat) : Table where
  rows := table.rows.erase id
  nextId := table.nextId
  fresh other member := table.fresh other ((AList.mem_erase.mp member).2)
  unique := by
    intro left right first second here there same
    by_cases leftGone : left = id
    · rw [leftGone, AList.lookup_erase] at here
      cases here
    by_cases rightGone : right = id
    · rw [rightGone, AList.lookup_erase] at there
      cases there
    rw [AList.lookup_erase_ne leftGone] at here
    rw [AList.lookup_erase_ne rightGone] at there
    exact table.unique here there same

/-- `ACCOUNT_LOOKUP_SQL`: the digest, empty when there is none, and whether the account is
enabled. -/
def lookup (username domain : Str) : Option (Str × Int) :=
  (table.rows.entries.find? fun entry => entry.2.key = (username, domain)).map fun entry =>
    (entry.2.ha1Hash.getD [], entry.2.enabled)

variable {table}

theorem lookup_of_row {id : Nat} (found : table.rows.lookup id = some account) :
    table.lookup account.username account.domain =
      some (account.ha1Hash.getD [], account.enabled) := by
  have listed := AList.mem_lookup_iff.mp found
  cases first : table.rows.entries.find? fun entry =>
      entry.2.key = (account.username, account.domain) with
  | none => exact absurd (decide_eq_true rfl) (List.find?_eq_none.mp first _ listed)
  | some entry =>
    have here := AList.mem_lookup_iff.mpr (List.mem_of_find?_eq_some first)
    have passed := List.find?_some first
    have key : entry.2.key = account.key := of_decide_eq_true passed
    have same := table.unique here found key
    rw [same, found] at here
    cases here
    rw [lookup, first]
    rfl

theorem write_eq_some {id : Nat} {after : Table} (written : table.write id account = some after) :
    after.rows = table.rows.insert id account := by
  unfold write at written
  split at written
  · rw [← Option.some.inj written]
  · cases written

end Table

variable (platform : Platform) (realm : Str)

/-- The digest of an account. -/
def ha1 (username realm password : Str) : Str :=
  platform.md5Hex (username ++ ':' :: (realm ++ ':' :: password))

/-- `validate_sip_username`. -/
def validateSipUsername (username : Str) : Bool :=
  3 ≤ Str.byteLength username && Str.byteLength username ≤ 6 && username.all Char.isDigit

/-- The row of a new account. -/
def createdRow (body : CreateAccount) (passwordHash : Str) : Account where
  username := body.username
  passwordHash := passwordHash
  ha1Hash := some (ha1 platform body.username realm body.password)
  displayName := body.displayName
  domain := body.domain.getD realm
  enabled := 1

/-- `create`. -/
def create (outcome : Outcome) (table : Table) (body : CreateAccount) :
    Except ApiError Nat × Table :=
  if body.username = [] ∨ body.password = [] then
    (.error (badRequest "username and password are required"), table)
  else if !validateSipUsername body.username then
    (.error (badRequest "SIP username must be a 3-6 digit extension"), table)
  else
    match outcome.hash body.password with
    | .error text => (.error ⟨500, text⟩, table)
    | .ok passwordHash =>
      match outcome.failure with
      | some text => (.error ⟨500, text⟩, table)
      | none =>
        match table.write table.nextId (createdRow platform realm body passwordHash) with
        | none =>
          (.error ⟨409, "Account already exists for this username and domain".toList⟩, table)
        | some after => (.ok table.nextId, after)

/-- The new hashes of an update with a password. -/
def updatedHashes (outcome : Outcome) (username : Str) :
    Option Str → Except Str (Option Str × Option Str)
  | none => .ok (none, none)
  | some password => (outcome.hash password).map fun passwordHash =>
    (some passwordHash, some (ha1 platform username realm password))

/-- The columns of the `UPDATE`, where a missing value leaves the old one. -/
def updatedRow (row : Account) (body : UpdateAccount) (hashes : Option Str × Option Str) :
    Account where
  username := row.username
  passwordHash := hashes.1.getD row.passwordHash
  ha1Hash := hashes.2.or row.ha1Hash
  displayName := body.displayName.or row.displayName
  domain := body.domain.getD row.domain
  enabled := body.enabled.getD row.enabled

/-- `update`. -/
def update (outcome : Outcome) (table : Table) (id : Nat) (body : UpdateAccount) :
    Except ApiError Unit × Table :=
  match outcome.failure with
  | some text => (.error ⟨500, text⟩, table)
  | none =>
    match table.rows.lookup id with
    | none => (.error ⟨404, "Account not found".toList⟩, table)
    | some row =>
      match updatedHashes platform realm outcome row.username body.password with
      | .error text => (.error ⟨500, text⟩, table)
      | .ok hashes =>
        match table.write id (updatedRow row body hashes) with
        | none => (.error ⟨500, outcome.duplicate⟩, table)
        | some after => (.ok (), after)

/-- `delete_account`. -/
def deleteAccount (outcome : Outcome) (table : Table) (id : Nat) : Except ApiError Unit × Table :=
  match outcome.failure with
  | some text => (.error ⟨500, text⟩, table)
  | none =>
    match table.rows.lookup id with
    | none => (.error ⟨404, "Account not found".toList⟩, table)
    | some _ => (.ok (), table.erase id)

/-- A request that changes accounts. -/
inductive Request where
  | create (body : CreateAccount)
  | update (id : Nat) (body : UpdateAccount)
  | delete (id : Nat)

/-- The account a request names. -/
def Request.target? : Request → Option Nat
  | create _ => none
  | update id _ => some id
  | delete id => some id

/-- The table after a request. -/
def Request.apply (outcome : Outcome) (table : Table) : Request → Table
  | create body => (Accounts.create platform realm outcome table body).2
  | update id body => (Accounts.update platform realm outcome table id body).2
  | delete id => (deleteAccount outcome table id).2

/-- The table after some requests. -/
def applyAll (table : Table) (requests : List (Request × Outcome)) : Table :=
  requests.foldl (fun table (request, outcome) => request.apply platform realm outcome table) table

section Rows

variable {platform : Platform} {realm : Str} {outcome : Outcome} {table : Table}

/-- What `create` does: it reports an error and leaves the table, or writes a new row. -/
theorem create_cases (body : CreateAccount) :
    (∃ error, create platform realm outcome table body = (.error error, table)) ∨
      ∃ passwordHash after, body.username ≠ [] ∧
        table.write table.nextId (createdRow platform realm body passwordHash) = some after ∧
        create platform realm outcome table body = (.ok table.nextId, after) := by
  unfold create
  split
  · exact .inl ⟨_, rfl⟩
  next given =>
    split
    · exact .inl ⟨_, rfl⟩
    split
    · exact .inl ⟨_, rfl⟩
    next passwordHash hashed =>
      split
      · exact .inl ⟨_, rfl⟩
      split
      · exact .inl ⟨_, rfl⟩
      next after written =>
        exact .inr ⟨passwordHash, after, fun empty => given (.inl empty), written, rfl⟩

/-- What `update` does: it reports an error and leaves the table, or writes the row. -/
theorem update_cases (id : Nat) (body : UpdateAccount) :
    (∃ error, update platform realm outcome table id body = (.error error, table)) ∨
      ∃ row hashes after, table.rows.lookup id = some row ∧
        table.write id (updatedRow row body hashes) = some after ∧
        update platform realm outcome table id body = (.ok (), after) := by
  unfold update
  split
  · exact .inl ⟨_, rfl⟩
  split
  · exact .inl ⟨_, rfl⟩
  next row found =>
    split
    · exact .inl ⟨_, rfl⟩
    next hashes hashed =>
      split
      · exact .inl ⟨_, rfl⟩
      next after written => exact .inr ⟨row, hashes, after, found, written, rfl⟩

/-- What `delete_account` does: it reports an error and leaves the table, or removes the row. -/
theorem deleteAccount_cases (id : Nat) :
    (∃ error, deleteAccount outcome table id = (.error error, table)) ∨
      deleteAccount outcome table id = (.ok (), table.erase id) := by
  unfold deleteAccount
  split
  · exact .inl ⟨_, rfl⟩
  split
  · exact .inl ⟨_, rfl⟩
  · exact .inr rfl

variable {id : Nat} {account : Account}

/-- An account is created with the digest of its password under the realm. -/
theorem row_of_create {body : CreateAccount} {after : Table}
    (created : create platform realm outcome table body = (.ok id, after)) :
    body.username ≠ [] ∧ ∃ passwordHash,
      after.rows.lookup id = some (createdRow platform realm body passwordHash) := by
  obtain ⟨error, failed⟩ | ⟨passwordHash, next, named, written, done⟩ :=
    @create_cases platform realm outcome table body
  · exact nomatch congrArg Prod.fst (failed.symm.trans created)
  · obtain ⟨sameId, rfl⟩ := Prod.mk.inj (done.symm.trans created)
    cases sameId
    refine ⟨named, passwordHash, ?_⟩
    rw [Table.write_eq_some written, AList.lookup_insert]

/-- A request that does not name an account leaves its row. -/
theorem Request.lookup_apply {request : Request} (found : table.rows.lookup id = some account)
    (other : request.target? ≠ some id) :
    (request.apply platform realm outcome table).rows.lookup id = some account := by
  have written : ∀ {changed row after}, table.write changed row = some after → id ≠ changed →
      after.rows.lookup id = some account := by
    intro changed row after written apart
    rw [Table.write_eq_some written, AList.lookup_insert_ne apart, found]
  cases request with
  | create body =>
    have old : id ≠ table.nextId :=
      Nat.ne_of_lt (table.fresh id (AList.lookup_isSome.mp (by rw [found]; rfl)))
    obtain ⟨error, failed⟩ | ⟨_, after, -, stored, done⟩ := create_cases body
    · rwa [Request.apply, failed]
    · rw [Request.apply, done]
      exact written stored old
  | update changed body =>
    have apart : id ≠ changed := fun same => other (congrArg some same.symm)
    obtain ⟨error, failed⟩ | ⟨_, _, after, -, stored, done⟩ := update_cases changed body
    · rwa [Request.apply, failed]
    · rw [Request.apply, done]
      exact written stored apart
  | delete removed =>
    have apart : id ≠ removed := fun same => other (congrArg some same.symm)
    obtain ⟨error, failed⟩ | done := deleteAccount_cases removed
    · rwa [Request.apply, failed]
    · rw [Request.apply, done]
      exact (AList.lookup_erase_ne apart).trans found

/-- Requests that do not name an account leave its row. -/
theorem lookup_applyAll {requests : List (Request × Outcome)}
    (found : table.rows.lookup id = some account)
    (others : ∀ entry ∈ requests, entry.1.target? ≠ some id) :
    (applyAll platform realm table requests).rows.lookup id = some account := by
  induction requests generalizing table with
  | nil => exact found
  | cons entry rest ih =>
    exact ih (Request.lookup_apply found (others entry (.head _)))
      fun next member => others next (.tail _ member)

end Rows

end Sip3.Accounts
