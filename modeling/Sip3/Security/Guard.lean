import Mathlib.Data.List.AList
import Mathlib.Data.List.DropRight
import Sip3.Semantics.History
import Sip3.Semantics.Retain
import Sip3.Semantics.SlidingWindow
import Sip3.Text.Str

/-!
# The security guard

`security_guard.rs`. The guard counts failures in queues, one for each address and one for each
address and user, and blocks an address for a time. Queues are pruned when they are pushed to, and
blocks when the guard is asked.

An operation carries the readings of the clock that it makes, in nanoseconds. What it answers is
compared with a specification that looks only at the operations before it.
-/

namespace Sip3.Security

open Text Semantics List Option AList

/-- `AuthSurface`. -/
inductive AuthSurface where
  | sipRegister
  | sipInvite
  | apiLogin
  deriving DecidableEq

/-- `GuardLimits`. -/
structure GuardLimits where
  windowSecs : Nat
  ipFailThreshold : Nat
  userIpFailThreshold : Nat
  blockSecs : Nat
  deriving DecidableEq

/-- `ActiveBlock`. -/
structure ActiveBlock where
  ip : Str
  blockedUntil : Nat
  surface : AuthSurface
  username : Option Str
  deriving DecidableEq

/-- `Duration::from_secs`, in nanoseconds. -/
def fromSecs (secs : Nat) : Nat := secs * 1000000000

/-- `SecurityGuard`. -/
structure SecurityGuard where
  limits : GuardLimits
  ipFailures : AList fun _ : Str => List Nat
  userIpFailures : AList fun _ : Str × Str => List Nat
  blocks : AList fun _ : Str => ActiveBlock

/-- `prune_old`. -/
def pruneOld (now window : Nat) : List Nat → List Nat
  | [] => []
  | front :: rest => if window < now - front then pruneOld now window rest else front :: rest

namespace SecurityGuard

/-- `SecurityGuard::new`. -/
def new (limits : GuardLimits) : SecurityGuard := ⟨limits, ∅, ∅, ∅⟩

variable (guard : SecurityGuard)

/-- `prune_expired_blocks` at a time. -/
def pruneExpiredBlocks (now : Nat) : SecurityGuard :=
  { guard with blocks := retain (fun _ block => decide (now < block.blockedUntil)) guard.blocks }

/-- `is_blocked` at a time. -/
def isBlocked (ip : Str) (now : Nat) : Bool × SecurityGuard :=
  let guard := guard.pruneExpiredBlocks now
  ((guard.blocks.lookup ip).isSome, guard)

/-- The entry of a queue for a failure. -/
def enter {Key : Type} [DecidableEq Key] (queues : AList fun _ : Key => List Nat) (key : Key)
    (now window : Nat) : List Nat :=
  pruneOld now window ((queues.lookup key).getD [] ++ [now])

/-- `record_failure`, which reads the clock once for the blocks and once for the failure. -/
def recordFailure (surface : AuthSurface) (ip : Str) (username : Option Str) (entered now : Nat) :
    Bool × SecurityGuard :=
  let guard := guard.pruneExpiredBlocks entered
  let window := fromSecs guard.limits.windowSecs
  let entries := enter guard.ipFailures ip now window
  let guard := { guard with ipFailures := guard.ipFailures.insert ip entries }
  let (userIpCount, guard) :=
    match username with
    | some user =>
      let entries := enter guard.userIpFailures (ip, user) now window
      (entries.length,
        { guard with userIpFailures := guard.userIpFailures.insert (ip, user) entries })
    | none => (0, guard)
  if guard.limits.ipFailThreshold ≤ entries.length ∨
      guard.limits.userIpFailThreshold ≤ userIpCount then
    (true, { guard with
      blocks := guard.blocks.insert ip
        ⟨ip, now + fromSecs guard.limits.blockSecs, surface, username⟩ })
  else (false, guard)

/-- `record_success`. -/
def recordSuccess (ip : Str) (username : Option Str) : SecurityGuard :=
  match username with
  | some user => { guard with userIpFailures := guard.userIpFailures.erase (ip, user) }
  | none => guard

/-- `unblock`. -/
def unblock (ip : Str) : SecurityGuard :=
  { guard with blocks := guard.blocks.erase ip }

end SecurityGuard

/-- An operation on the guard, with the readings of the clock. -/
inductive Op where
  | recordFailure (surface : AuthSurface) (ip : Str) (username : Option Str) (entered now : Nat)
  | recordSuccess (ip : Str) (username : Option Str) (now : Nat)
  | unblock (ip : Str) (now : Nat)
  | isBlocked (ip : Str) (now : Nat)
  deriving DecidableEq

namespace Op

/-- The first reading of the clock. -/
def entered : Op → Nat
  | recordFailure _ _ _ entered _ => entered
  | recordSuccess _ _ now | unblock _ now | isBlocked _ now => now

/-- The last reading of the clock. -/
def now : Op → Nat
  | recordFailure _ _ _ _ now => now
  | recordSuccess _ _ now | unblock _ now | isBlocked _ now => now

end Op

/-- What an operation answers, if it answers, and the guard after it. -/
def SecurityGuard.perform (guard : SecurityGuard) : Op → Option Bool × SecurityGuard
  | .recordFailure surface ip username entered now =>
    let (blocked, guard) := guard.recordFailure surface ip username entered now
    (some blocked, guard)
  | .recordSuccess ip username _ => (none, guard.recordSuccess ip username)
  | .unblock ip _ => (none, guard.unblock ip)
  | .isBlocked ip now =>
    let (blocked, guard) := guard.isBlocked ip now
    (some blocked, guard)

/-- The guard after some operations. -/
def after (limits : GuardLimits) (ops : List Op) : SecurityGuard :=
  ops.foldl (fun guard op => (guard.perform op).2) (.new limits)

/-- What an operation answers after others. -/
def answer (limits : GuardLimits) (past : List Op) (op : Op) : Option Bool :=
  ((after limits past).perform op).1

/-- The clock does not go back. -/
structure InOrder (ops : List Op) : Prop where
  within : ∀ op ∈ ops, op.entered ≤ op.now
  between : ops.Pairwise fun first second => first.now ≤ second.entered

/-! ### The specification -/

/-- The time of a failure of an address. -/
def Op.failure? (ip : Str) : Op → Option Nat
  | recordFailure _ source _ _ now => if source = ip then some now else none
  | recordSuccess _ _ _ | unblock _ _ | isBlocked _ _ => none

/-- The time of a failure of an address and a user. -/
def Op.userFailure? (ip user : Str) : Op → Option Nat
  | recordFailure _ source username _ now =>
    if source = ip ∧ username = some user then some now else none
  | recordSuccess _ _ _ | unblock _ _ | isBlocked _ _ => none

/-- The operation is a success of an address and a user. -/
def Op.isSuccess (ip user : Str) : Op → Bool
  | recordSuccess source username _ => decide (source = ip ∧ username = some user)
  | recordFailure _ _ _ _ _ | unblock _ _ | isBlocked _ _ => false

/-- The times of the failures of an address. -/
def failureTimes (ip : Str) (ops : List Op) : List Nat :=
  ops.filterMap (Op.failure? ip)

/-- The times of the failures of an address and a user since their last success. -/
def userFailureTimes (ip user : Str) (ops : List Op) : List Nat :=
  (ops.rtakeWhile fun op => !op.isSuccess ip user).filterMap (Op.userFailure? ip user)

/-- The number of times in the closed window that ends at a time. -/
def inWindow (windowSecs now : Nat) (times : List Nat) : Nat :=
  times.countP fun made => decide (now ≤ made + fromSecs windowSecs ∧ made ≤ now)

/-- A failure of an address was answered with a block that lasts beyond a time, and the address was
not unblocked after it. -/
def Blocked (limits : GuardLimits) (past : List Op) (ip : Str) (now : Nat) : Prop :=
  ∃ earlier surface username entered made later,
    past = earlier ++ Op.recordFailure surface ip username entered made :: later ∧
    answer limits earlier (.recordFailure surface ip username entered made) = some true ∧
    now < made + fromSecs limits.blockSecs ∧ ∀ op ∈ later, ∀ time, op ≠ .unblock ip time

/-! ### What the operations do -/

theorem pruneOld_eq (now window : Nat) (queue : List Nat) : pruneOld now window queue =
    queue.dropWhile fun made => !(Lifetime.closed window).counts made now := by
  induction queue with
  | nil => rfl
  | cons front rest ih =>
    unfold pruneOld
    by_cases old : window < now - front
    · rw [if_pos old, ih, dropWhile_cons_of_pos]
      simp only [Lifetime.closed, Bool.not_eq_true', decide_eq_false_iff_not]
      omega
    · rw [if_neg old, dropWhile_cons_of_neg]
      simp only [Lifetime.closed, Bool.not_eq_true', decide_eq_false_iff_not]
      omega

namespace SecurityGuard

variable (guard : SecurityGuard) (surface : AuthSurface) (ip : Str) (username : Option Str)
  (entered now : Nat)

/-- The number of failures of the address and the user, if one is given. -/
def userIpCount : Nat :=
  match username with
  | some user => (enter guard.userIpFailures (ip, user) now (fromSecs guard.limits.windowSecs)).length
  | none => 0

/-- The queues of address and user after a failure. -/
def userIpQueues : AList fun _ : Str × Str => List Nat :=
  match username with
  | some user => guard.userIpFailures.insert (ip, user)
      (enter guard.userIpFailures (ip, user) now (fromSecs guard.limits.windowSecs))
  | none => guard.userIpFailures

theorem recordFailure_eq : guard.recordFailure surface ip username entered now =
    let entries := enter guard.ipFailures ip now (fromSecs guard.limits.windowSecs)
    let blocked := decide (guard.limits.ipFailThreshold ≤ entries.length ∨
      guard.limits.userIpFailThreshold ≤ guard.userIpCount ip username now)
    let blocks := (guard.pruneExpiredBlocks entered).blocks
    (blocked,
      { limits := guard.limits
        ipFailures := guard.ipFailures.insert ip entries
        userIpFailures := guard.userIpQueues ip username now
        blocks :=
          if blocked then blocks.insert ip
            ⟨ip, now + fromSecs guard.limits.blockSecs, surface, username⟩
          else blocks }) := by
  unfold recordFailure userIpCount userIpQueues pruneExpiredBlocks
  cases username with
  | none =>
    dsimp only
    split
    · next reached => simp only [decide_eq_true reached, if_true]
    · next below => simp only [decide_eq_false below, Bool.false_eq_true, if_false]
  | some user =>
    dsimp only
    split
    · next reached => simp only [decide_eq_true reached, if_true]
    · next below => simp only [decide_eq_false below, Bool.false_eq_true, if_false]

end SecurityGuard

section Histories

variable {past : List Op} {op : Op} {ip user : Str} {limits : GuardLimits} {now : Nat}

theorem InOrder.until {rest : List Op} (inOrder : InOrder (past ++ op :: rest)) :
    InOrder (past ++ [op]) := by
  have front : (past ++ [op]).Sublist (past ++ op :: rest) :=
    (List.Sublist.refl past).append (cons_sublist_cons.mpr (nil_sublist rest))
  exact ⟨fun earlier member => inOrder.within earlier (front.subset member),
    inOrder.between.sublist front⟩

theorem InOrder.concat (inOrder : InOrder (past ++ [op])) :
    InOrder past ∧ op.entered ≤ op.now ∧ ∀ earlier ∈ past, earlier.now ≤ op.entered := by
  obtain ⟨within, between⟩ := inOrder
  rw [pairwise_append] at between
  refine ⟨⟨fun earlier member => within earlier (mem_append_left _ member), between.1⟩,
    within op (mem_append_right _ mem_cons_self), fun earlier member => ?_⟩
  exact between.2.2 earlier member op mem_cons_self

theorem InOrder.sorted (inOrder : InOrder past) :
    past.Pairwise fun first second => first.now ≤ second.now := by
  apply inOrder.between.imp_of_mem
  intro first second _ member order
  exact order.trans (inOrder.within second member)

variable {made : Nat}

theorem Op.failure?_eq_some_iff : op.failure? ip = some made ↔
    ∃ surface username entered, op = .recordFailure surface ip username entered made := by
  cases op with
  | recordFailure surface source username entered now =>
    rw [Op.failure?, ite_none_right_eq_some, some.injEq]
    constructor
    · rintro ⟨rfl, rfl⟩
      exact ⟨surface, username, entered, rfl⟩
    · rintro ⟨_, _, _, ⟨⟩⟩
      exact ⟨rfl, rfl⟩
  | recordSuccess source username now => exact ⟨nofun, nofun⟩
  | unblock source now => exact ⟨nofun, nofun⟩
  | isBlocked source now => exact ⟨nofun, nofun⟩

theorem Op.now_of_failure? (failed : op.failure? ip = some made) : op.now = made := by
  obtain ⟨surface, username, entered, rfl⟩ := Op.failure?_eq_some_iff.mp failed
  rfl

theorem Op.now_of_userFailure? (failed : op.userFailure? ip user = some made) : op.now = made := by
  cases op with
  | recordFailure surface source username entered now =>
    rw [Op.userFailure?, ite_none_right_eq_some] at failed
    exact some.inj failed.2
  | recordSuccess source username now => cases failed
  | unblock source now => cases failed
  | isBlocked source now => cases failed

theorem failureTimes_sorted (inOrder : InOrder past) (ip : Str) :
    (failureTimes ip past).Pairwise (· ≤ ·) := by
  rw [failureTimes, pairwise_filterMap]
  apply inOrder.sorted.imp
  intro first second order made failed later failedLater
  rw [Op.now_of_failure? failed, Op.now_of_failure? failedLater] at order
  exact order

theorem userFailureTimes_sorted (inOrder : InOrder past) (ip user : Str) :
    (userFailureTimes ip user past).Pairwise (· ≤ ·) := by
  rw [userFailureTimes, pairwise_filterMap]
  apply (inOrder.sorted.sublist (rtakeWhile_suffix _ _).sublist).imp
  intro first second order made failed later failedLater
  rw [Op.now_of_userFailure? failed, Op.now_of_userFailure? failedLater] at order
  exact order

theorem failureTimes_concat : failureTimes ip (past ++ [op]) =
    failureTimes ip past ++ (op.failure? ip).toList := by
  rw [failureTimes, filterMap_append]
  cases failed : op.failure? ip <;> simp [failureTimes, failed]

theorem userFailureTimes_concat : userFailureTimes ip user (past ++ [op]) =
    if op.isSuccess ip user then []
    else userFailureTimes ip user past ++ (op.userFailure? ip user).toList := by
  rw [userFailureTimes, rtakeWhile_concat]
  cases succeeded : op.isSuccess ip user with
  | true => rfl
  | false =>
    rw [if_pos (show (!false) = true from rfl), if_neg Bool.false_ne_true, filterMap_append]
    cases failed : op.userFailure? ip user <;> simp [userFailureTimes, failed]

theorem blocked_concat : Blocked limits (past ++ [op]) ip now ↔
    (∃ surface username entered made, op = .recordFailure surface ip username entered made ∧
      answer limits past op = some true ∧ now < made + fromSecs limits.blockSecs) ∨
    Blocked limits past ip now ∧ ∀ time, op ≠ .unblock ip time := by
  constructor
  · rintro ⟨earlier, surface, username, entered, made, later, split, answered, lasts, kept⟩
    obtain ⟨rfl, rfl, rfl⟩ | ⟨rest, rfl, rfl⟩ := concat_eq_append_cons_iff.mp split
    · exact .inl ⟨surface, username, entered, made, rfl, answered, lasts⟩
    · refine .inr ⟨⟨earlier, surface, username, entered, made, rest, rfl, answered, lasts, ?_⟩, ?_⟩
      · exact fun other member => kept other (mem_append_left _ member)
      · exact kept op (mem_append_right _ mem_cons_self)
  · rintro (⟨surface, username, entered, made, rfl, answered, lasts⟩ |
      ⟨⟨earlier, surface, username, entered, made, later, rfl, answered, lasts, kept⟩, still⟩)
    · exact ⟨past, surface, username, entered, made, [], rfl, answered, lasts, nofun⟩
    · refine ⟨earlier, surface, username, entered, made, later ++ [op], ?_, answered, lasts, ?_⟩
      · rw [append_assoc, cons_append]
      · intro other member
        rcases mem_append.mp member with old | new
        · exact kept other old
        · rw [mem_singleton.mp new]
          exact still

end Histories

/-- How long a failure counts. -/
def GuardLimits.lifetime (limits : GuardLimits) : Lifetime := .closed (fromSecs limits.windowSecs)

/-- From a time on, a guard answers as its history says. -/
structure Reflects (guard : SecurityGuard) (limits : GuardLimits) (past : List Op) (since : Nat) :
    Prop where
  sameLimits : guard.limits = limits
  ipQueue : ∀ ip, limits.lifetime.Covers ((guard.ipFailures.lookup ip).getD [])
    (failureTimes ip past) since
  userQueue : ∀ ip user, limits.lifetime.Covers ((guard.userIpFailures.lookup (ip, user)).getD [])
    (userFailureTimes ip user past) since
  blocks : ∀ ip now, since ≤ now →
    ((∃ block, guard.blocks.lookup ip = some block ∧ now < block.blockedUntil) ↔
      Blocked limits past ip now)

section Reflection

variable {guard : SecurityGuard} {limits : GuardLimits} {past : List Op} {since : Nat}

theorem Reflects.mono (reflects : Reflects guard limits past since) {later : Nat}
    (order : since ≤ later) : Reflects guard limits past later where
  sameLimits := reflects.sameLimits
  ipQueue ip := (reflects.ipQueue ip).mono order
  userQueue ip user := (reflects.userQueue ip user).mono order
  blocks ip now passed := reflects.blocks ip now (order.trans passed)

theorem reflects_new (limits : GuardLimits) (since : Nat) :
    Reflects (.new limits) limits [] since where
  sameLimits := rfl
  ipQueue _ := .nil _ since
  userQueue _ _ := .nil _ since
  blocks ip now _ := by
    constructor
    · rintro ⟨block, found, -⟩
      cases found
    · rintro ⟨earlier, surface, username, entered, made, later, split, -⟩
      exact absurd split (by simp)

variable {Key : Type} {queues : AList fun _ : Key => List Nat} {key : Key} {times : List Nat}

/-- Entering a failure in a queue that has what counts. -/
theorem enter_eq [DecidableEq Key] {now : Nat}
    (covers : limits.lifetime.Covers ((queues.lookup key).getD []) times since)
    (order : since ≤ now) (sorted : (times ++ [now]).Pairwise (· ≤ ·)) :
    SecurityGuard.enter queues key now (fromSecs limits.windowSecs) =
      limits.lifetime.recent now (times ++ [now]) := by
  rw [SecurityGuard.enter, pruneOld_eq]
  exact (covers.push order sorted).1

/-- The queue covers the times after an operation that may have entered a failure into it. -/
theorem covers_elim_enter [DecidableEq Key] {now : Nat} {failure : Option Nat}
    (covers : limits.lifetime.Covers ((queues.lookup key).getD []) times since)
    (order : since ≤ now) (read : ∀ made, failure = some made → now = made)
    (sorted : (times ++ failure.toList).Pairwise (· ≤ ·)) :
    limits.lifetime.Covers (failure.elim ((queues.lookup key).getD []) fun now =>
      SecurityGuard.enter queues key now (fromSecs limits.windowSecs)) (times ++ failure.toList)
      now := by
  cases failure with
  | none =>
    rw [toList_none, append_nil]
    exact covers.mono order
  | some made =>
    cases read made rfl
    rw [elim_some, enter_eq covers order sorted]
    exact (covers.push order sorted).2

theorem lookup_pruneExpiredBlocks (guard : SecurityGuard) (ip : Str) {entered now : Nat}
    (order : entered ≤ now) :
    (∃ block, (guard.pruneExpiredBlocks entered).blocks.lookup ip = some block ∧
        now < block.blockedUntil) ↔
      ∃ block, guard.blocks.lookup ip = some block ∧ now < block.blockedUntil := by
  simp only [SecurityGuard.pruneExpiredBlocks, lookup_retain, filter_eq_some_iff,
    decide_eq_true_eq]
  constructor
  · rintro ⟨block, ⟨found, -⟩, lasts⟩
    exact ⟨block, found, lasts⟩
  · rintro ⟨block, found, lasts⟩
    exact ⟨block, ⟨found, order.trans_lt lasts⟩, lasts⟩

/-- `is_blocked` finds the blocks that last beyond the time. -/
theorem isBlocked_iff (guard : SecurityGuard) (ip : Str) (now : Nat) :
    (guard.isBlocked ip now).1 = true ↔
      ∃ block, guard.blocks.lookup ip = some block ∧ now < block.blockedUntil := by
  rw [SecurityGuard.isBlocked, isSome_iff_exists]
  simp only [SecurityGuard.pruneExpiredBlocks, lookup_retain, filter_eq_some_iff,
    decide_eq_true_eq]

end Reflection

section Perform

variable (guard : SecurityGuard) (op : Op) (ip user : Str)

theorem limits_perform : (guard.perform op).2.limits = guard.limits := by
  cases op with
  | recordFailure surface source username entered now =>
    rw [SecurityGuard.perform, SecurityGuard.recordFailure_eq]
  | recordSuccess source username now => cases username <;> rfl
  | unblock source now => rfl
  | isBlocked source now => rfl

theorem ipQueue_perform : ((guard.perform op).2.ipFailures.lookup ip).getD [] =
    (op.failure? ip).elim ((guard.ipFailures.lookup ip).getD []) fun now =>
      SecurityGuard.enter guard.ipFailures ip now (fromSecs guard.limits.windowSecs) := by
  cases op with
  | recordFailure surface source username entered now =>
    rw [SecurityGuard.perform, SecurityGuard.recordFailure_eq, Op.failure?]
    by_cases same : source = ip
    · subst same
      rw [lookup_insert, if_pos rfl]
      rfl
    · rw [lookup_insert_ne (Ne.symm same), if_neg same]
      rfl
  | recordSuccess source username now => cases username <;> rfl
  | unblock source now => rfl
  | isBlocked source now => rfl

theorem userQueue_perform : ((guard.perform op).2.userIpFailures.lookup (ip, user)).getD [] =
    if op.isSuccess ip user then [] else
      (op.userFailure? ip user).elim ((guard.userIpFailures.lookup (ip, user)).getD []) fun now =>
        SecurityGuard.enter guard.userIpFailures (ip, user) now
          (fromSecs guard.limits.windowSecs) := by
  cases op with
  | recordFailure surface source username entered now =>
    rw [SecurityGuard.perform, SecurityGuard.recordFailure_eq, Op.isSuccess, Op.userFailure?,
      if_neg Bool.false_ne_true]
    cases username with
    | none =>
      rw [if_neg (fun both => nomatch both.2)]
      rfl
    | some name =>
      by_cases same : source = ip ∧ some name = some user
      · obtain ⟨rfl, ⟨⟩⟩ := same
        rw [SecurityGuard.userIpQueues, lookup_insert, if_pos ⟨rfl, rfl⟩]
        rfl
      · rw [SecurityGuard.userIpQueues, lookup_insert_ne, if_neg same]
        · rfl
        · rintro ⟨⟩
          exact same ⟨rfl, rfl⟩
  | recordSuccess source username now =>
    rw [SecurityGuard.perform, Op.isSuccess]
    cases username with
    | none =>
      rw [decide_eq_false (fun both => nomatch both.2)]
      rfl
    | some name =>
      by_cases same : source = ip ∧ some name = some user
      · obtain ⟨rfl, ⟨⟩⟩ := same
        rw [SecurityGuard.recordSuccess, lookup_erase]
        simp
      · rw [SecurityGuard.recordSuccess, lookup_erase_ne, decide_eq_false same]
        · rfl
        · rintro ⟨⟩
          exact same ⟨rfl, rfl⟩
  | unblock source now => rfl
  | isBlocked source now => rfl

/-- An operation that answers a failure with a block starts it; an unblocking ends one. -/
theorem blocks_perform {later : Nat} (order : op.entered ≤ op.now) (passed : op.now ≤ later) :
    (∃ block, (guard.perform op).2.blocks.lookup ip = some block ∧ later < block.blockedUntil) ↔
      if op.failure? ip = some op.now ∧ (guard.perform op).1 = some true then
        later < op.now + fromSecs guard.limits.blockSecs
      else (∀ time, op ≠ .unblock ip time) ∧
        ∃ block, guard.blocks.lookup ip = some block ∧ later < block.blockedUntil := by
  cases op with
  | recordFailure surface source username entered now =>
    rw [SecurityGuard.perform, SecurityGuard.recordFailure_eq, Op.failure?, Op.now]
    have still : ∀ time, Op.recordFailure surface source username entered now ≠ .unblock ip time :=
      nofun
    have pruned := lookup_pruneExpiredBlocks guard ip (order.trans passed)
    by_cases same : source = ip
    · subst same
      simp only [if_true, true_and, some.injEq]
      split
      · simp only [lookup_insert, some.injEq, exists_eq_left']
      · exact pruned.trans ⟨fun held => ⟨still, held⟩, fun held => held.2⟩
    · rw [if_neg same, if_neg (fun both => nomatch both.1)]
      refine Iff.trans ?_ (pruned.trans ⟨fun held => ⟨still, held⟩, fun held => held.2⟩)
      dsimp only
      split
      · rw [lookup_insert_ne (Ne.symm same)]
        rfl
      · rfl
  | recordSuccess source username now =>
    rw [Op.failure?, if_neg (fun both => nomatch both.1)]
    cases username <;> exact ⟨fun held => ⟨nofun, held⟩, fun held => held.2⟩
  | unblock source now =>
    rw [Op.failure?, if_neg (fun both => nomatch both.1), SecurityGuard.perform,
      SecurityGuard.unblock]
    by_cases same : source = ip
    · subst same
      simp [lookup_erase]
    · rw [lookup_erase_ne (Ne.symm same)]
      refine ⟨fun held => ⟨?_, held⟩, fun held => held.2⟩
      rintro time ⟨⟩
      exact same rfl
  | isBlocked source now =>
    rw [Op.failure?, if_neg (fun both => nomatch both.1), SecurityGuard.perform,
      SecurityGuard.isBlocked]
    exact (lookup_pruneExpiredBlocks guard ip passed).trans
      ⟨fun held => ⟨nofun, held⟩, fun held => held.2⟩

end Perform

theorem Reflects.perform {limits : GuardLimits} {past : List Op} {op : Op}
    (reflects : Reflects (after limits past) limits past op.entered)
    (inOrder : InOrder (past ++ [op])) :
    Reflects ((after limits past).perform op).2 limits (past ++ [op]) op.now := by
  obtain ⟨-, order, earlier⟩ := inOrder.concat
  constructor
  · rw [limits_perform, reflects.sameLimits]
  · intro ip
    have sorted := failureTimes_sorted inOrder ip
    rw [ipQueue_perform, reflects.sameLimits]
    rw [failureTimes_concat] at sorted ⊢
    exact covers_elim_enter (reflects.ipQueue ip) order (fun _ => Op.now_of_failure?) sorted
  · intro ip user
    have sorted := userFailureTimes_sorted inOrder ip user
    rw [userQueue_perform, reflects.sameLimits]
    rw [userFailureTimes_concat] at sorted ⊢
    split
    · exact .nil _ _
    · next failing =>
        rw [if_neg failing] at sorted
        exact covers_elim_enter (reflects.userQueue ip user) order
          (fun _ => Op.now_of_userFailure?) sorted
  · intro ip now passed
    rw [blocks_perform _ _ _ order passed, blocked_concat, reflects.sameLimits,
      reflects.blocks ip now (order.trans passed)]
    split
    · next blocks =>
        obtain ⟨failed, answered⟩ := blocks
        obtain ⟨surface, username, entered, shape⟩ := Op.failure?_eq_some_iff.mp failed
        constructor
        · exact fun lasts => .inl ⟨surface, username, entered, op.now, shape, answered, lasts⟩
        · rintro (⟨_, _, _, made, rfl, -, lasts⟩ | ⟨⟨front, _, _, _, made, back, rfl, -, lasts, -⟩, -⟩)
          · exact lasts
          · -- An earlier block ends before the new one.
            have first : made ≤ op.entered := earlier _ (mem_append_right _ mem_cons_self)
            omega
    · next other =>
        constructor
        · exact fun held => .inr ⟨held.2, held.1⟩
        · rintro (⟨surface, username, entered, made, rfl, answered, -⟩ | held)
          · exact absurd ⟨Op.failure?_eq_some_iff.mpr ⟨_, _, _, rfl⟩, answered⟩ other
          · exact ⟨held.2, held.1⟩

theorem after_concat (limits : GuardLimits) (past : List Op) (op : Op) :
    after limits (past ++ [op]) = ((after limits past).perform op).2 := by
  rw [after, foldl_append]
  rfl

/-- After operations in order, the guard reflects them. -/
theorem reflects_after (limits : GuardLimits) {past : List Op} {since : Nat}
    (inOrder : InOrder past) (recent : ∀ op ∈ past, op.now ≤ since) :
    Reflects (after limits past) limits past since := by
  induction past using reverseRecOn generalizing since with
  | nil => exact reflects_new limits since
  | append_singleton past op ih =>
    obtain ⟨before, -, earlier⟩ := inOrder.concat
    rw [after_concat]
    apply ((ih before earlier).perform inOrder).mono
    exact recent op (mem_append_right _ mem_cons_self)

/-- The entries of a queue that count are those in the window. -/
theorem length_recent (limits : GuardLimits) {times : List Nat} {now : Nat}
    (past : ∀ made ∈ times, made ≤ now) :
    (limits.lifetime.recent now times).length = inWindow limits.windowSecs now times := by
  rw [Lifetime.recent, inWindow, countP_eq_length_filter]
  congr 1
  apply filter_congr
  intro made member
  have := past made member
  simp only [GuardLimits.lifetime, Lifetime.closed, decide_eq_decide]
  omega

theorem failureTimes_le {ops : List Op} {ip : Str} {now : Nat} (recent : ∀ op ∈ ops, op.now ≤ now) :
    ∀ made ∈ failureTimes ip ops, made ≤ now := by
  intro made member
  obtain ⟨op, inHistory, failed⟩ := mem_filterMap.mp member
  rw [← Op.now_of_failure? failed]
  exact recent op inHistory

theorem userFailureTimes_le {ops : List Op} {ip user : Str} {now : Nat}
    (recent : ∀ op ∈ ops, op.now ≤ now) : ∀ made ∈ userFailureTimes ip user ops, made ≤ now := by
  intro made member
  obtain ⟨op, inHistory, failed⟩ := mem_filterMap.mp member
  rw [← Op.now_of_userFailure? failed]
  exact recent op ((rtakeWhile_suffix _ _).subset inHistory)

section Counts

variable {past : List Op} {op : Op} {ip user : Str}

theorem InOrder.le_now (inOrder : InOrder (past ++ [op])) :
    ∀ earlier ∈ past ++ [op], earlier.now ≤ op.now := by
  obtain ⟨-, order, before⟩ := inOrder.concat
  intro earlier member
  rcases mem_append.mp member with old | new
  · exact (before earlier old).trans order
  · rw [mem_singleton.mp new]

/-- The queue of an address has the failures in the window. -/
theorem length_ipQueue (limits : GuardLimits) (inOrder : InOrder (past ++ [op]))
    (failed : op.failure? ip = some op.now) :
    (SecurityGuard.enter (after limits past).ipFailures ip op.now
        (fromSecs limits.windowSecs)).length =
      inWindow limits.windowSecs op.now (failureTimes ip (past ++ [op])) := by
  obtain ⟨before, order, earlier⟩ := inOrder.concat
  have covers := (reflects_after limits before earlier).ipQueue ip
  have sorted := failureTimes_sorted inOrder ip
  rw [← length_recent limits (failureTimes_le inOrder.le_now)]
  rw [failureTimes_concat, failed, toList_some] at sorted ⊢
  rw [enter_eq covers order sorted]

/-- The queue of an address and a user has their failures in the window. -/
theorem length_userQueue (limits : GuardLimits) (inOrder : InOrder (past ++ [op]))
    (failed : op.userFailure? ip user = some op.now) (failing : op.isSuccess ip user = false) :
    (SecurityGuard.enter (after limits past).userIpFailures (ip, user) op.now
        (fromSecs limits.windowSecs)).length =
      inWindow limits.windowSecs op.now (userFailureTimes ip user (past ++ [op])) := by
  obtain ⟨before, order, earlier⟩ := inOrder.concat
  have covers := (reflects_after limits before earlier).userQueue ip user
  have sorted := userFailureTimes_sorted inOrder ip user
  rw [← length_recent limits (userFailureTimes_le inOrder.le_now)]
  rw [userFailureTimes_concat, failing, if_neg Bool.false_ne_true, failed, toList_some]
    at sorted ⊢
  rw [enter_eq covers order sorted]

end Counts

/-- In every history of operations with a clock that does not go back, a failure is answered with a
block exactly when a threshold is reached in the closed window, and an address is blocked exactly
from such an answer until its time is over or the address is unblocked. -/
theorem guard_meets_specification {limits : GuardLimits} {ops : List Op}
    (userPositive : 1 ≤ limits.userIpFailThreshold) (inOrder : InOrder ops) :
    (∀ past surface ip username entered now rest,
      ops = past ++ Op.recordFailure surface ip username entered now :: rest →
      (answer limits past (.recordFailure surface ip username entered now) = some true ↔
        limits.ipFailThreshold ≤ inWindow limits.windowSecs now (failureTimes ip
          (past ++ [.recordFailure surface ip username entered now])) ∨
        ∃ user, username = some user ∧
          limits.userIpFailThreshold ≤ inWindow limits.windowSecs now (userFailureTimes ip user
            (past ++ [.recordFailure surface ip username entered now])))) ∧
    ∀ past ip now rest, ops = past ++ Op.isBlocked ip now :: rest →
      (answer limits past (.isBlocked ip now) = some true ↔ Blocked limits past ip now) := by
  constructor
  · rintro past surface ip username entered now rest rfl
    have whole := inOrder.until
    obtain ⟨before, order, earlier⟩ := whole.concat
    have reflects : Reflects (after limits past) limits past entered :=
      reflects_after limits before earlier
    have ipCount : (SecurityGuard.enter (after limits past).ipFailures ip now
          (fromSecs limits.windowSecs)).length = inWindow limits.windowSecs now (failureTimes ip
            (past ++ [.recordFailure surface ip username entered now])) :=
      length_ipQueue limits whole (if_pos rfl)
    rw [answer, SecurityGuard.perform, SecurityGuard.recordFailure_eq, Option.some.injEq,
      decide_eq_true_eq, reflects.sameLimits, ← ipCount]
    apply or_congr_right
    cases username with
    | none =>
      constructor
      · intro reached
        have zero : 1 ≤ 0 := userPositive.trans reached
        exact absurd zero (by decide)
      · rintro ⟨user, ⟨⟩, -⟩
    | some user =>
      have userCount : (after limits past).userIpCount ip (some user) now =
          inWindow limits.windowSecs now (userFailureTimes ip user
            (past ++ [.recordFailure surface ip (some user) entered now])) := by
        rw [SecurityGuard.userIpCount, reflects.sameLimits]
        exact length_userQueue limits whole (if_pos ⟨rfl, rfl⟩) rfl
      rw [userCount]
      simp only [Option.some.injEq, exists_eq_left']
  · rintro past ip now rest rfl
    obtain ⟨before, -, earlier⟩ := inOrder.until.concat
    have reflects : Reflects (after limits past) limits past now :=
      reflects_after limits before earlier
    rw [← reflects.blocks ip now le_rfl, answer, SecurityGuard.perform, Option.some.injEq,
      isBlocked_iff]

namespace Sample

def limits : GuardLimits := ⟨300, 3, 10, 900⟩

def source : Str := "198.51.100.10".toList

/-- Failures of one address for three users. -/
def failures : List Op :=
  [.recordFailure .sipRegister source (some "1001".toList) 1 1,
    .recordFailure .sipRegister source (some "1002".toList) 2 2,
    .recordFailure .sipRegister source (some "1003".toList) 3 3]

end Sample

open Sample in
theorem guard_meets_specification_thrice :
    answer limits failures (.isBlocked source 4) = some true ∧ Blocked limits failures source 4 := by
  have inOrder : InOrder (failures ++ [.isBlocked source 4]) := ⟨by decide, by decide⟩
  have asked : answer limits failures (.isBlocked source 4) = some true := by decide +kernel
  exact ⟨asked,
    ((guard_meets_specification (by decide) inOrder).2 failures source 4 [] rfl).mp asked⟩

end Sip3.Security
