import Mathlib.Data.List.AList
import Sip3.Semantics.SlidingWindow
import Sip3.Text.Str

/-!
# The rate limit of the API

`api/rate_limit.rs` and the layers of `api/mod.rs`. The limiter keeps, for each client address,
the times of the requests it let pass. The middleware looks for it in the extensions of a
request, where it expects the application state; `from_fn_with_state` hands the state to
extractors and puts nothing into the extensions, and the middleware has no extractor for it.
What the middleware lets pass is therefore what arrives.

Only what the middleware reads is here: of the application state the limiter, and of a request
the forwarding header, the extensions, and whether the CORS layer answers it.
-/

namespace Sip3.RateLimit

open Text Semantics List

/-- `Duration::from_secs`, in nanoseconds. -/
def fromSecs (secs : Nat) : Nat := secs * 1000000000

/-- `RateLimiter` without its shared state. -/
structure RateLimiter where
  limit : Nat
  windowSecs : Nat
  deriving DecidableEq

/-- `RateLimiterState`: the times of the requests that passed, by client address. -/
abbrev Entries := AList fun _ : Str => List Nat

namespace RateLimiter

variable (limiter : RateLimiter)

/-- How long a request counts. -/
def lifetime : Lifetime := .halfOpen (fromSecs limiter.windowSecs)

/-- `RateLimiter::check` at a time. -/
def check (entries : Entries) (key : Str) (now : Nat) : Bool × Entries :=
  let timestamps := limiter.lifetime.recent now ((entries.lookup key).getD [])
  if limiter.limit ≤ timestamps.length then (false, entries.insert key timestamps)
  else (true, entries.insert key (timestamps ++ [now]))

/-- A check of a key at a time. -/
structure Check where
  key : Str
  now : Nat
  deriving DecidableEq

/-- The checks of a sequence, each with its answer. -/
def log : Entries → List Check → List (Check × Bool)
  | _, [] => []
  | entries, asked :: rest =>
    (asked, (limiter.check entries asked.key asked.now).1) ::
      log (limiter.check entries asked.key asked.now).2 rest

/-- The times of the accepted checks of a key. -/
def accepted (key : Str) (log : List (Check × Bool)) : List Nat :=
  (log.filter fun entry => entry.1.key = key && entry.2).map (·.1.now)

theorem accepted_concat (key : Str) (log : List (Check × Bool)) (asked : Check) (passed : Bool) :
    accepted key (log ++ [(asked, passed)]) =
      accepted key log ++ if asked.key = key ∧ passed = true then [asked.now] else [] := by
  unfold accepted
  rw [filter_append, map_append]
  by_cases own : asked.key = key ∧ passed = true
  · rw [if_pos own, filter_cons_of_pos (by simp [own])]
    rfl
  · rw [if_neg own, filter_cons_of_neg (by simpa using own)]
    rfl

/-- The entries of a key stand for the accepted checks of a log, from a time on. -/
def Stands (entries : Entries) (log : List (Check × Bool)) (since : Nat) : Prop :=
  ∀ key, limiter.lifetime.Covers ((entries.lookup key).getD []) (accepted key log) since

section Steps

variable {limiter} {entries : Entries} {front : List (Check × Bool)} {since : Nat}

section

variable (stands : limiter.Stands entries front since) (asked : Check) (order : since ≤ asked.now)

include stands asked order

theorem check_fst :
    (limiter.check entries asked.key asked.now).1 = true ↔
      (limiter.lifetime.recent asked.now (accepted asked.key front)).length < limiter.limit := by
  rw [← (stands asked.key).recent asked.now order, check]
  split
  · next full => simpa using full
  · next free => simpa using free

/-- A check of a key enters its time when it is accepted; a refused one leaves no trace. -/
theorem Stands.check :
    limiter.Stands (limiter.check entries asked.key asked.now).2
      (front ++ [(asked, (limiter.check entries asked.key asked.now).1)]) asked.now := by
  intro key
  have kept := (stands asked.key).retain order
  rw [accepted_concat]
  unfold RateLimiter.check
  simp only
  by_cases own : asked.key = key
  · subst own
    split
    · simpa using kept
    · simpa using kept.append asked.now
  · have others := (stands key).mono order
    have other : key ≠ asked.key := fun same => own same.symm
    split <;> simpa [own, AList.lookup_insert_ne other] using others

end

/-- Each check of a run is decided by the accepted checks before it. -/
theorem log_exact {checks : List Check} (stands : limiter.Stands entries front since)
    (later : ∀ asked ∈ checks, since ≤ asked.now) (ordered : (checks.map (·.now)).Pairwise (· ≤ ·))
    {middle back : List (Check × Bool)} {asked : Check} {passed : Bool}
    (split : limiter.log entries checks = middle ++ (asked, passed) :: back) :
    passed = true ↔ (limiter.lifetime.recent asked.now
      (accepted asked.key (front ++ middle))).length < limiter.limit := by
  induction checks generalizing entries front since middle with
  | nil => simp [log] at split
  | cons first rest ih =>
    rw [map_cons, pairwise_cons] at ordered
    have order := later first (.head _)
    rw [log] at split
    cases middle with
    | nil =>
      obtain ⟨same, -⟩ := cons.inj split
      obtain ⟨rfl, rfl⟩ := Prod.mk.inj same
      rw [append_nil]
      exact check_fst stands first order
    | cons entry middle =>
      obtain ⟨rfl, onward⟩ := cons.inj split
      rw [append_cons]
      refine ih (stands.check first order) (fun other member => ?_) ordered.2 onward
      exact ordered.1 other.now (mem_map_of_mem member)

end Steps

/-- Where every check is decided by the accepted ones before it, no window has more of them than
the limit. -/
theorem window_le {log : List (Check × Bool)} (decided : ∀ middle asked passed back,
      log = middle ++ (asked, passed) :: back → (passed = true ↔
        (limiter.lifetime.recent asked.now (accepted asked.key middle)).length < limiter.limit))
    (key : Str) (start : Nat) :
    ((accepted key log).filter fun made => decide (start ≤ made ∧
      made < start + fromSecs limiter.windowSecs)).length ≤ limiter.limit := by
  induction log using reverseRecOn with
  | nil => exact Nat.zero_le _
  | append_singleton log entry ih =>
    obtain ⟨asked, passed⟩ := entry
    have before := ih fun middle other answer back split =>
      decided middle other answer (back ++ [(asked, passed)]) (by rw [split]; simp)
    rw [accepted_concat, filter_append, length_append]
    by_cases counted : (asked.key = key ∧ passed = true) ∧
        start ≤ asked.now ∧ asked.now < start + fromSecs limiter.windowSecs
    · -- The accepted checks of the window before this one still count for it.
      obtain ⟨⟨rfl, rfl⟩, inside⟩ := counted
      have free := (decided log asked true [] rfl).mp rfl
      have fewer : ((accepted asked.key log).filter fun made => decide (start ≤ made ∧
          made < start + fromSecs limiter.windowSecs)).length ≤
          (limiter.lifetime.recent asked.now (accepted asked.key log)).length := by
        apply List.Sublist.length_le
        apply monotone_filter_right
        intro made within
        simp only [decide_eq_true_eq] at within
        simp only [lifetime, Lifetime.halfOpen, decide_eq_true_eq]
        omega
      simp only [and_self, if_true, filter_cons, inside, decide_true, filter_nil,
        length_singleton]
      omega
    · have none : (if asked.key = key ∧ passed = true then [asked.now] else []).filter
          (fun made => decide (start ≤ made ∧ made < start + fromSecs limiter.windowSecs)) =
            [] := by
        split
        · next own => simpa [own] using counted
        · rfl
      rw [none]
      exact before

/-- The answers for a key are those of its own checks. -/
theorem log_filter (checks : List Check) (key : Str) {entries alone : Entries}
    (same : entries.lookup key = alone.lookup key) :
    (limiter.log entries checks).filter (·.1.key = key) =
      limiter.log alone (checks.filter (·.key = key)) := by
  induction checks generalizing entries alone with
  | nil => rfl
  | cons asked rest ih =>
    by_cases own : asked.key = key
    · subst own
      rw [filter_cons_of_pos (by simp), log, log, filter_cons_of_pos (by simp)]
      unfold check
      rw [same]
      simp only
      split <;> exact congrArg _ (ih (by rw [AList.lookup_insert, AList.lookup_insert]))
    · have other : key ≠ asked.key := fun same => own same.symm
      rw [filter_cons_of_neg (by simpa using own), log,
        filter_cons_of_neg (by simpa using own)]
      refine ih ?_
      rw [← same]
      unfold check
      simp only
      split <;> exact AList.lookup_insert_ne other

/-- In every run of checks at times that do not decrease, a check is accepted exactly when fewer
than the limit of the accepted checks of its key before it lie within the window; no half-open
window has more accepted checks of a key than the limit; and the answers for a key are those its
checks have alone. -/
theorem check_exact (checks : List Check) (ordered : (checks.map (·.now)).Pairwise (· ≤ ·)) :
    (∀ middle asked passed back, limiter.log ∅ checks = middle ++ (asked, passed) :: back →
      (passed = true ↔ ((accepted asked.key middle).filter fun made =>
        asked.now - made < fromSecs limiter.windowSecs).length < limiter.limit)) ∧
    (∀ key start, ((accepted key (limiter.log ∅ checks)).filter fun made =>
      decide (start ≤ made ∧ made < start + fromSecs limiter.windowSecs)).length ≤
        limiter.limit) ∧
    ∀ key, (limiter.log ∅ checks).filter (·.1.key = key) =
      limiter.log ∅ (checks.filter (·.key = key)) := by
  have empty : limiter.Stands ∅ [] 0 := fun key => .nil _ 0
  have decided : ∀ middle asked passed back,
      limiter.log ∅ checks = middle ++ (asked, passed) :: back → (passed = true ↔
        (limiter.lifetime.recent asked.now (accepted asked.key middle)).length < limiter.limit) :=
    fun middle asked passed back split =>
      log_exact empty (fun _ _ => Nat.zero_le _) ordered split
  exact ⟨decided, limiter.window_le decided, fun key => limiter.log_filter checks key rfl⟩

/-- Three checks of one key within a second, of which a limit of two refuses the last. -/
theorem check_exact_three :
    (RateLimiter.mk 2 1).log ∅ [⟨[], 0⟩, ⟨[], 5⟩, ⟨[], 9⟩] =
      [(⟨[], 0⟩, true), (⟨[], 5⟩, true), (⟨[], 9⟩, false)] ∧
    ∀ key start, ((accepted key ((RateLimiter.mk 2 1).log ∅ [⟨[], 0⟩, ⟨[], 5⟩, ⟨[], 9⟩])).filter
      fun made => decide (start ≤ made ∧ made < start + fromSecs 1)).length ≤ 2 :=
  ⟨by decide, (check_exact ⟨2, 1⟩ [⟨[], 0⟩, ⟨[], 5⟩, ⟨[], 9⟩] (by decide)).2.1⟩

end RateLimiter

/-- The part of `AppState` the middleware reads. -/
structure AppState where
  rateLimiter : Option RateLimiter
  deriving DecidableEq

/-- What this program puts into the extensions of requests: `require_jwt` and `require_auth` insert
the claims of a token. The middleware looks for the application state. -/
inductive Extension where
  | claims
  | appState (state : AppState)
  deriving DecidableEq

/-- A request. The value of the forwarding header is a list of bytes. -/
structure Request where
  forwardedFor : Option (List UInt8)
  /-- An OPTIONS request, which the CORS layer answers. -/
  preflight : Bool
  extensions : List Extension
  deriving DecidableEq

namespace Request

/-- `HeaderValue::to_str`: visible ASCII characters, blanks and tabs. -/
def toStr (bytes : List UInt8) : Option Str :=
  if bytes.all fun byte => (32 ≤ byte && byte < 127) || byte == 9 then
    some (bytes.map fun byte => Char.ofNat byte.toNat)
  else none

/-- The client address of `rate_limit_middleware`. -/
def clientIp (request : Request) : Str :=
  (((request.forwardedFor.bind toStr).bind fun value => (Str.split ',' value).head?).map
    Str.trim).getD "unknown".toList

/-- `Extensions::get::<AppState>`. -/
def appState? (request : Request) : Option AppState :=
  request.extensions.findSome? fun extension =>
    match extension with
    | .appState state => some state
    | .claims => none

end Request

/-- `rate_limit_middleware` at a time: whether the request is passed on. -/
def rateLimitMiddleware (request : Request) (now : Nat) (entries : Entries) : Bool × Entries :=
  match request.appState?.bind (·.rateLimiter) with
  | some limiter => limiter.check entries request.clientIp now
  | none => (true, entries)

/-- The state that `run` builds. -/
def appState (rateLimitRequests rateLimitWindowSecs : Nat) : AppState where
  rateLimiter :=
    if 0 < rateLimitRequests then some ⟨rateLimitRequests, rateLimitWindowSecs⟩ else none

/-- `middleware::from_fn_with_state`: the state is for extractors, of which this middleware has
none. -/
def fromFnWithState {α : Type} (_ : AppState) (middleware : α) : α := middleware

/-- The two outer layers of the router: the CORS layer answers OPTIONS requests, and the others go
to the middleware. -/
def layers (state : AppState) (request : Request) (now : Nat) (entries : Entries) :
    Bool × Entries :=
  if request.preflight then (false, entries)
  else fromFnWithState state rateLimitMiddleware request now entries

/-- A request with the time it arrives at. -/
structure Arrival where
  now : Nat
  request : Request

/-- The arrivals that pass the middleware. -/
def passing (state : AppState) : Entries → List Arrival → List Arrival
  | _, [] => []
  | entries, arrival :: rest =>
    let (passed, next) := layers state arrival.request arrival.now entries
    if passed then arrival :: passing state next rest else passing state next rest

/-- The requests of a client address in a half-open window. -/
def within (address : Str) (start windowSecs : Nat) (arrivals : List Arrival) : List Arrival :=
  arrivals.filter fun arrival => decide (arrival.request.clientIp = address ∧
    start ≤ arrival.now ∧ arrival.now < start + fromSecs windowSecs)

section Passing

variable {state : AppState} {arrivals : List Arrival}

/-- Without the state in its extensions, every request that is not a preflight passes. -/
theorem passing_eq_filter (entries : Entries)
    (received : ∀ arrival ∈ arrivals, arrival.request.extensions = []) :
    passing state entries arrivals = arrivals.filter fun arrival => !arrival.request.preflight := by
  induction arrivals generalizing entries with
  | nil => rfl
  | cons arrival rest ih =>
    have bare : arrival.request.extensions = [] := received arrival mem_cons_self
    have others := ih entries fun other member => received other (mem_cons_of_mem _ member)
    have unlimited : rateLimitMiddleware arrival.request arrival.now entries = (true, entries) := by
      rw [rateLimitMiddleware, Request.appState?, bare]
      rfl
    unfold passing layers
    by_cases preflight : arrival.request.preflight = true
    · rw [if_pos preflight, filter_cons_of_neg (by simp [preflight])]
      exact others
    · rw [if_neg preflight, filter_cons_of_pos (by simpa using preflight)]
      dsimp only [fromFnWithState]
      rw [unlimited, ← others]
      rfl

end Passing

/-- The limit holds in every window exactly when the requests that arrive keep it themselves. -/
theorem rate_limit_kept_iff (limit windowSecs : Nat) (address : Str) (arrivals : List Arrival)
    (received : ∀ arrival ∈ arrivals, arrival.request.extensions = []) :
    (∀ start, (within address start windowSecs
      (passing (appState limit windowSecs) ∅ arrivals)).length ≤ limit) ↔
    ∀ start, (within address start windowSecs
      (arrivals.filter fun arrival => !arrival.request.preflight)).length ≤ limit := by
  rw [passing_eq_filter ∅ received]

/-- A request with no forwarding header. -/
def plainRequest : Request := ⟨none, false, []⟩

/-- One request keeps a limit of one. -/
theorem rate_limit_kept_once : (within "unknown".toList 0 60
    (passing (appState 1 60) ∅ [⟨0, plainRequest⟩])).length ≤ 1 := by
  apply (rate_limit_kept_iff 1 60 _ _ (by simp [plainRequest])).mpr
  intro start
  exact (List.length_filter_le _ _).trans (by decide)

/-- Two requests pass under a limit of one. -/
theorem rate_limit_exceeded :
    ¬ (within "unknown".toList 0 60 (passing (appState 1 60) ∅
      [⟨0, plainRequest⟩, ⟨0, plainRequest⟩])).length ≤ 1 := by
  decide

end Sip3.RateLimit
