import AgentsAuth.Agents.TokenExchangeCache
import AgentsAuth.AuthCurity.Exchange
import AgentsAuth.Lib.Machine
import Mathlib.Logic.Function.Basic

/-!
# Obtaining tokens

The shape that every exchange helper of the agents and of the MCP servers has: look in
the cache, prepare the request, exchange, store, remember the exchange for `/last-token`
and return. A call suspends while it prepares and while it exchanges; the calls of a
process run meanwhile on the same caches and slots. The helpers differ in the fields of
`ObtainCall`.
-/

namespace AgentsAuth.Agents

open AgentsAuth.AuthCurity AgentsAuth.Lib

/-- A call of a helper: `η` names the helpers of a process and `σ` is the type of its slots.
Without a `key` nothing is cached, and without a `slot` the exchange is not remembered. -/
structure ObtainCall (η σ : Type) where
  helper : η
  key : Option CacheKey
  bypassCache : Bool
  /-- The message of the error thrown when there is no SVID. -/
  svidMissing : String
  /-- The token endpoint, where it is not read from the metadata of the configured issuer. -/
  tokenEndpoint : Option String
  clientId : String
  /-- The secret of a client that does not sign an assertion. -/
  clientSecret : Option String
  subjectToken : String
  audience : String
  scope : String
  dpop : Bool
  slot : Option (String → Int → σ)

/-- What a call waits for before it exchanges: its SVID, the `kid` of its identity and the token
endpoint of the configured issuer. -/
structure Preparation where
  svid : Option String
  identity : Except Thrown String
  authorizationServer : Except Thrown String

/-- The parameters of the exchange that a call makes. -/
def ObtainCall.exchangeParams {η σ : Type} (call : ObtainCall η σ) (p : Preparation) :
    Except Thrown ExchangeTokenParams := do
  let some svid := p.svid | .error (.curityAuth ⟨call.svidMissing, .invalidActor⟩)
  match call.clientSecret with
  | some secret =>
    let endpoint ← call.tokenEndpoint.elim p.authorizationServer .ok
    return ⟨endpoint, call.clientId, .basic secret, call.subjectToken, svid, call.audience,
      call.scope, call.dpop⟩
  | none =>
    let kid ← p.identity
    let endpoint ← call.tokenEndpoint.elim p.authorizationServer .ok
    return ⟨endpoint, call.clientId, .privateKeyJwt kid endpoint, call.subjectToken, svid,
      call.audience, call.scope, call.dpop⟩

/-- A process: how long its caches keep a token, the call that a request makes, and whether its
entry is dropped when the token turns out to be no good. -/
structure ObtainDeps (η σ ρ : Type) where
  exchangeCacheTtlMs : Nat
  callOf : ρ → ObtainCall η σ
  invalidates : ρ → Bool := fun _ ↦ false

/-- Where a call stands. -/
inductive Phase (ρ : Type) where
  | notStarted
  | preparing (req : ρ)
  | exchanging (req : ρ) (params : ExchangeTokenParams)
  | finished

/-- The module variables of a process and its calls. -/
structure ObtainState (η σ ρ : Type) where
  cache : η → TokenExchangeCache
  last : η → Option σ
  phase : Nat → Phase ρ

/-- What lets a call go on, or drops the cached token of a request. -/
inductive ObtainEvent (ρ : Type) where
  | start (req : ρ) (now : Int)
  | prepared (p : Preparation)
  | exchanged (answer : Except Thrown ExchangeTokenResult) (now : Int)
  | invalidated (req : ρ)

/-- What a stretch of a call does. -/
inductive Observation (ρ : Type) where
  | minted (req : ρ) (params : ExchangeTokenParams) (result : ExchangeTokenResult)
  | recorded (req : ρ) (accessToken : String) (now : Int)
  | returned (req : ρ) (accessToken : String)
  | refused (e : Thrown)
deriving DecidableEq

variable {η σ ρ : Type} [DecidableEq η]

namespace ObtainState

/-- The call `c` moves on to `p`. -/
def goto (s : ObtainState η σ ρ) (c : Nat) (p : Phase ρ) : ObtainState η σ ρ :=
  { s with phase := Function.update s.phase c p }

omit [DecidableEq η] in
/-- A call is where it has moved on to. -/
@[simp] theorem goto_phase_self (s : ObtainState η σ ρ) (c : Nat) (p : Phase ρ) :
    (s.goto c p).phase c = p :=
  Function.update_self ..

/-- The cache lookup of a call; a bypassing call drops the entry first. -/
def lookup (s : ObtainState η σ ρ) (call : ObtainCall η σ) (now : Int) :
    ObtainState η σ ρ × Option CacheValue :=
  match call.key with
  | none => (s, none)
  | some key =>
    let own := s.cache call.helper
    let own := if call.bypassCache then own.invalidate key else own
    ({ s with cache := Function.update s.cache call.helper (own.get key now).1 },
      (own.get key now).2)

/-- The result of an exchange enters the cache. -/
def store (s : ObtainState η σ ρ) (call : ObtainCall η σ) (result : ExchangeTokenResult)
    (ttlMs : Nat) (now : Int) : ObtainState η σ ρ :=
  match call.key with
  | none => s
  | some key =>
    let value : CacheValue := ⟨result.accessToken, result.expiresInSec, result.scope⟩
    { s with
      cache :=
        Function.update s.cache call.helper ((s.cache call.helper).set key value ttlMs now) }

/-- The cached token of a call is dropped. -/
def invalidate (s : ObtainState η σ ρ) (call : ObtainCall η σ) : ObtainState η σ ρ :=
  match call.key with
  | none => s
  | some key =>
    { s with
      cache := Function.update s.cache call.helper ((s.cache call.helper).invalidate key) }

/-- The call `c` remembers its token, where it has a slot, and returns it. -/
def finish (s : ObtainState η σ ρ) (deps : ObtainDeps η σ ρ) (c : Nat) (req : ρ)
    (accessToken : String) (now : Int) : ObtainState η σ ρ × List (Observation ρ) :=
  match (deps.callOf req).slot with
  | none => (s.goto c .finished, [.returned req accessToken])
  | some slot =>
    ({ s.goto c .finished with
        last := Function.update s.last (deps.callOf req).helper (some (slot accessToken now)) },
      [.recorded req accessToken now, .returned req accessToken])

end ObtainState

/-- One stretch of a call. An event that the call is not waiting for does nothing. -/
def obtainStep (deps : ObtainDeps η σ ρ) (s : ObtainState η σ ρ) (c : Nat)
    (event : ObtainEvent ρ) : ObtainState η σ ρ × List (Observation ρ) :=
  match s.phase c, event with
  | .notStarted, .start req now =>
    match s.lookup (deps.callOf req) now with
    | (s, some value) => s.finish deps c req value.accessToken now
    | (s, none) => (s.goto c (.preparing req), [])
  | .preparing req, .prepared p =>
    match (deps.callOf req).exchangeParams p with
    | .error e => (s.goto c .finished, [.refused e])
    | .ok params => (s.goto c (.exchanging req params), [])
  | .exchanging req params, .exchanged answer now =>
    match answer with
    | .error e => (s.goto c .finished, [.refused e])
    | .ok result =>
      let s := s.store (deps.callOf req) result deps.exchangeCacheTtlMs now
      let (s, shown) := s.finish deps c req result.accessToken now
      (s, .minted req params result :: shown)
  | _, .invalidated req =>
    (if deps.invalidates req then s.invalidate (deps.callOf req) else s, [])
  | _, _ => (s, [])

/-- The calls of one process, in the order in which their stretches run. -/
def obtaining (deps : ObtainDeps η σ ρ) :
    Machine (ObtainState η σ ρ) (Nat × ObtainEvent ρ) (List (Observation ρ)) where
  init := ⟨fun _ ↦ .empty, fun _ ↦ none, fun _ ↦ .notStarted⟩
  step s e := obtainStep deps s e.1 e.2

/-- Why a call throws: it cannot prepare its exchange, or its exchange fails. -/
inductive RefusedBy (deps : ObtainDeps η σ ρ) (s : ObtainState η σ ρ) (c : Nat) :
    ObtainEvent ρ → Thrown → Prop
  | preparation {req : ρ} {p : Preparation} {e : Thrown} (hphase : s.phase c = .preparing req)
    (hparams : (deps.callOf req).exchangeParams p = .error e) : RefusedBy deps s c (.prepared p) e
  | exchange {req : ρ} {params : ExchangeTokenParams} (e : Thrown) (now : Int)
    (hphase : s.phase c = .exchanging req params) :
    RefusedBy deps s c (.exchanged (.error e) now) e

/-- What one stretch does. -/
inductive Moves (deps : ObtainDeps η σ ρ) (s : ObtainState η σ ρ) (c : Nat) :
    ObtainEvent ρ → ObtainState η σ ρ × List (Observation ρ) → Prop
  | idle {event : ObtainEvent ρ}
    (hidle : ∀ req now, s.phase c = .notStarted → event ≠ .start req now) :
    Moves deps s c event (s, [])
  | refuse {event : ObtainEvent ρ} {e : Thrown} (hrefused : RefusedBy deps s c event e) :
    Moves deps s c event (s.goto c .finished, [.refused e])
  | hit {req : ρ} {now : Int} {value : CacheValue} (hphase : s.phase c = .notStarted)
    (hget : (s.lookup (deps.callOf req) now).2 = some value) :
    Moves deps s c (.start req now)
      ((s.lookup (deps.callOf req) now).1.finish deps c req value.accessToken now)
  | miss (req : ρ) (now : Int) (hphase : s.phase c = .notStarted) :
    Moves deps s c (.start req now)
      ((s.lookup (deps.callOf req) now).1.goto c (.preparing req), [])
  | prepare {req : ρ} {p : Preparation} {params : ExchangeTokenParams}
    (hphase : s.phase c = .preparing req)
    (hparams : (deps.callOf req).exchangeParams p = .ok params) :
    Moves deps s c (.prepared p) (s.goto c (.exchanging req params), [])
  | mint {req : ρ} {params : ExchangeTokenParams} {result : ExchangeTokenResult} {now : Int}
    (hphase : s.phase c = .exchanging req params) :
    Moves deps s c (.exchanged (.ok result) now)
      (((s.store (deps.callOf req) result deps.exchangeCacheTtlMs now).finish deps c req
          result.accessToken now).1,
        .minted req params result ::
          ((s.store (deps.callOf req) result deps.exchangeCacheTtlMs now).finish deps c req
            result.accessToken now).2)
  | drop (req : ρ) : Moves deps s c (.invalidated req) (s.invalidate (deps.callOf req), [])

/-- Every stretch is one of these moves. -/
theorem obtainStep_moves (deps : ObtainDeps η σ ρ) (s : ObtainState η σ ρ) (c : Nat)
    (event : ObtainEvent ρ) : Moves deps s c event (obtainStep deps s c event) := by
  unfold obtainStep
  split
  · next req now hphase =>
    split
    · next s' value hlookup =>
      have hfst := congrArg Prod.fst hlookup
      have hsnd := congrArg Prod.snd hlookup
      simp only at hfst hsnd
      rw [← hfst]
      exact .hit hphase hsnd
    · next s' hlookup =>
      have hfst := congrArg Prod.fst hlookup
      simp only at hfst
      rw [← hfst]
      exact .miss req now hphase
  · next req p hphase =>
    split
    · next e hparams => exact .refuse (.preparation hphase hparams)
    · next params hparams => exact .prepare hphase hparams
  · next req params answer now hphase =>
    split
    · next e => exact .refuse (.exchange e now hphase)
    · next result => exact .mint hphase
  · next req =>
    split
    · exact .drop req
    · exact .idle fun req now _ hevent ↦ by cases hevent
  · next _ hstart _ _ => exact .idle fun req now hphase hevent ↦ hstart req now hphase hevent

end AgentsAuth.Agents
