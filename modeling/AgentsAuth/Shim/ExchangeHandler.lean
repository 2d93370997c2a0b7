import AgentsAuth.AuthCurity.DpopReplay
import AgentsAuth.Shim.ExchangeCache

/-!
# The exchange handler of the shim

`handleExchange` of `apps/exchange-shim/src/exchange-handler.ts`. A call suspends at
the proof check, at the SVID and at the exchange; other calls run meanwhile on the
same two caches. Every event is one stretch of one call between two suspensions.
-/

namespace AgentsAuth.Shim

open AgentsAuth.AuthCurity AgentsAuth.Base AgentsAuth.Lib

/-- `req.dpop` with its optional fields. -/
structure DpopFields where
  proof : Option String
  htm : Option String
  htu : Option String
deriving DecidableEq

/-- `ExchangeRequest` of `exchange-handler.ts:11–20`. -/
structure ExchangeRequest where
  callerToken : String
  targetAudience : String
  dpop : Option DpopFields
deriving DecidableEq

/-- A scope of the allow-list: a configured string, or an inherited property of the table. -/
inductive Scope where
  | own (scope : String)
  | inherited (name : String)
deriving DecidableEq

/-- The parameters of a call to `deps.exchange`. -/
structure ExchangeParams where
  tokenEndpoint : String
  clientId : String
  clientSecret : String
  subjectToken : String
  actorToken : String
  audience : String
  scope : Scope
deriving DecidableEq

/-- `HandlerDeps` of `exchange-handler.ts:28–43` as far as it is fixed for a process. -/
structure HandlerDeps where
  tools : ProofTools
  /-- `decodeJwt`; `none` is a thrown error. -/
  decodeJwt : String → Option Claims
  tokenEndpoint : String
  clientId : String
  clientSecret : String
  audienceScopes : List (String × String)
  cache : Option ExchangeCacheOptions
  replay : Option DpopReplayCache

/-- How a call fails. -/
inductive HandlerError where
  | audienceNotAllowed (audience : String)
  | proofRequired
  | proof (e : ProofError)
  | svid (message : String)
  | exchange (e : CurityAuthError)
deriving DecidableEq

/-- `deps.audienceScopes[req.targetAudience]` when it is truthy: `exchange-handler.ts:49–52`. -/
def allowedScope (deps : HandlerDeps) (audience : String) : Option Scope :=
  match property nodePrototype deps.audienceScopes audience with
  | .own scope => if scope = "" then none else some (.own scope)
  | .inherited => some (.inherited audience)
  | .missing => none

/-- `tokenCnfJkt` of `packages/auth-curity/src/dpop.ts:60–76`, when it is truthy. -/
def boundKey (deps : HandlerDeps) (token : String) : Option String :=
  match deps.decodeJwt token with
  | none => none
  | some claims => (Json.string? ((claims "cnf").bind fun cnf ↦ cnf.get? "jkt")).filter (· ≠ "")

/-- The proof call of a request for a bound token: `exchange-handler.ts:61–66`. -/
def proofCall (req : ExchangeRequest) (jkt : String) (now : ℚ) : Option ProofCall := do
  let fields ← req.dpop
  let proof ← fields.proof.filter (· ≠ "")
  let htm ← fields.htm.filter (· ≠ "")
  let htu ← fields.htu.filter (· ≠ "")
  return ⟨proof, htm, htu, req.callerToken, jkt, none, now⟩

/-- The parameters of the exchange that a call makes: `exchange-handler.ts:70–78`. -/
def exchangeParams (deps : HandlerDeps) (req : ExchangeRequest) (scope : Scope)
    (actorToken : String) : ExchangeParams :=
  ⟨deps.tokenEndpoint, deps.clientId, deps.clientSecret, req.callerToken, actorToken,
    req.targetAudience, scope⟩

/-- Where a call stands. -/
inductive Phase where
  | notStarted
  | checkingProof (req : ExchangeRequest) (scope : Scope) (call : ProofCall)
  | lookingUp (req : ExchangeRequest) (scope : Scope)
  | awaitingSvid (req : ExchangeRequest) (scope : Scope)
  | exchanging (req : ExchangeRequest) (params : ExchangeParams)
  | finished

/-- The process: its caches and its calls. -/
structure ShimState where
  store : Store
  replay : Option DpopReplayCache
  phase : Nat → Phase

/-- What lets a call go on: the request, the proof check, the lookup at some time, the SVID, or
the answer of the token endpoint at some time. -/
inductive ShimEvent where
  | start (req : ExchangeRequest) (now : ℚ)
  | checkProof
  | lookUp (now : ℚ)
  | svid (result : Except String String)
  | exchanged (result : Except CurityAuthError ExchangeResponse) (now : ℚ)

/-- How a call settles. -/
inductive Observation where
  | responded (req : ExchangeRequest) (response : ExchangeResponse)
  | refused (e : HandlerError)
deriving DecidableEq

namespace ShimState

/-- The call `c` moves on to `p`. -/
def goto (s : ShimState) (c : Nat) (p : Phase) : ShimState :=
  { s with phase := Function.update s.phase c p }

end ShimState

/-- Model of `exchange-handler.ts:45–88`, one stretch at a time. An event that the call is not
waiting for does nothing. -/
def handleStep (deps : HandlerDeps) (s : ShimState) (c : Nat) (event : ShimEvent) :
    ShimState × List Observation :=
  match s.phase c, event with
  | .notStarted, .start req now =>
    match allowedScope deps req.targetAudience with
    | none => (s.goto c .finished, [.refused (.audienceNotAllowed req.targetAudience)])
    | some scope =>
      match boundKey deps req.callerToken with
      | none => (s.goto c (.lookingUp req scope), [])
      | some jkt =>
        match proofCall req jkt now, s.replay with
        | some call, some _ => (s.goto c (.checkingProof req scope call), [])
        | _, _ => (s.goto c .finished, [.refused .proofRequired])
  | .checkingProof req scope call, .checkProof =>
    match s.replay with
    | none => (s, [])
    | some replay =>
      match verifyDpopProof deps.tools replay call with
      | (replay, .ok ()) =>
        ({ s.goto c (.lookingUp req scope) with replay := some replay }, [])
      | (replay, .error e) =>
        ({ s.goto c .finished with replay := some replay }, [.refused (.proof e)])
  | .lookingUp req scope, .lookUp now =>
    match deps.cache with
    | none => (s.goto c (.awaitingSvid req scope), [])
    | some opts =>
      match s.store.get opts (keyOf deps.tools.sha256 req.callerToken req.targetAudience) now with
      | (store, some response) =>
        ({ s.goto c .finished with store := store }, [.responded req response])
      | (store, none) => ({ s.goto c (.awaitingSvid req scope) with store := store }, [])
  | .awaitingSvid req scope, .svid result =>
    match result with
    | .error message => (s.goto c .finished, [.refused (.svid message)])
    | .ok actorToken =>
      (s.goto c (.exchanging req (exchangeParams deps req scope actorToken)), [])
  | .exchanging req _, .exchanged result now =>
    match result with
    | .error e => (s.goto c .finished, [.refused (.exchange e)])
    | .ok response =>
      let store :=
        match deps.cache with
        | none => s.store
        | some opts =>
          s.store.put opts (keyOf deps.tools.sha256 req.callerToken req.targetAudience) response now
      ({ s.goto c .finished with store := store }, [.responded req response])
  | _, _ => (s, [])

/-- Concurrent calls of `handleExchange`: the events of all calls in the order they happen. -/
def handling (deps : HandlerDeps) : Machine ShimState (Nat × ShimEvent) (List Observation) where
  init := ⟨.empty, deps.replay, fun _ ↦ .notStarted⟩
  step s e := handleStep deps s e.1 e.2

/-- What one event does to the process and shows to the outside. -/
inductive Moves (deps : HandlerDeps) (s : ShimState) (c : Nat) :
    ShimEvent → ShimState → List Observation → Prop
  | idle (event : ShimEvent) : Moves deps s c event s []
  | refuse (event : ShimEvent) (e : HandlerError) :
    Moves deps s c event (s.goto c .finished) [.refused e]
  | toProof {req : ExchangeRequest} {scope : Scope} {jkt : String} {call : ProofCall} (now : ℚ)
    (hscope : allowedScope deps req.targetAudience = some scope)
    (hjkt : boundKey deps req.callerToken = some jkt) (hcall : proofCall req jkt now = some call) :
    Moves deps s c (.start req now) (s.goto c (.checkingProof req scope call)) []
  | toLookup {req : ExchangeRequest} {scope : Scope} (now : ℚ)
    (hscope : allowedScope deps req.targetAudience = some scope)
    (hjkt : boundKey deps req.callerToken = none) :
    Moves deps s c (.start req now) (s.goto c (.lookingUp req scope)) []
  | proven {req : ExchangeRequest} {scope : Scope} {call : ProofCall} {replay : DpopReplayCache}
    (hphase : s.phase c = .checkingProof req scope call) (hreplay : s.replay = some replay)
    (hverify : (verifyDpopProof deps.tools replay call).2 = .ok ()) :
    Moves deps s c .checkProof
      { s.goto c (.lookingUp req scope) with
        replay := some (verifyDpopProof deps.tools replay call).1 } []
  | uncached {req : ExchangeRequest} {scope : Scope} (now : ℚ)
    (hphase : s.phase c = .lookingUp req scope) :
    Moves deps s c (.lookUp now) (s.goto c (.awaitingSvid req scope)) []
  | hit {req : ExchangeRequest} {scope : Scope} {response : ExchangeResponse}
    (opts : ExchangeCacheOptions) (now : ℚ) (hphase : s.phase c = .lookingUp req scope)
    (hget : (s.store.get opts (keyOf deps.tools.sha256 req.callerToken req.targetAudience)
      now).2 = some response) :
    Moves deps s c (.lookUp now)
      { s.goto c .finished with
        store := (s.store.get opts
          (keyOf deps.tools.sha256 req.callerToken req.targetAudience) now).1 }
      [.responded req response]
  | miss {req : ExchangeRequest} {scope : Scope} (opts : ExchangeCacheOptions) (now : ℚ)
    (hphase : s.phase c = .lookingUp req scope) :
    Moves deps s c (.lookUp now)
      { s.goto c (.awaitingSvid req scope) with
        store := (s.store.get opts
          (keyOf deps.tools.sha256 req.callerToken req.targetAudience) now).1 } []
  | toExchange {req : ExchangeRequest} {scope : Scope} (actorToken : String)
    (hphase : s.phase c = .awaitingSvid req scope) :
    Moves deps s c (.svid (.ok actorToken))
      (s.goto c (.exchanging req (exchangeParams deps req scope actorToken))) []
  | grant {req : ExchangeRequest} {params : ExchangeParams} (response : ExchangeResponse) (now : ℚ)
    (store : Store) (hphase : s.phase c = .exchanging req params)
    (hstore : store = s.store ∨ ∃ opts, store = s.store.put opts
      (keyOf deps.tools.sha256 req.callerToken req.targetAudience) response now) :
    Moves deps s c (.exchanged (.ok response) now) { s.goto c .finished with store := store }
      [.responded req response]

/-- Every event is one of these moves. -/
theorem handleStep_moves (deps : HandlerDeps) (s : ShimState) (c : Nat) (event : ShimEvent) :
    Moves deps s c event (handleStep deps s c event).1 (handleStep deps s c event).2 := by
  unfold handleStep
  split
  · next req now _ =>
    split
    · exact .refuse _ _
    · next scope hscope =>
      split
      · next hjkt => exact .toLookup now hscope hjkt
      · next jkt hjkt =>
        split
        · next call _ hcall _ => exact .toProof now hscope hjkt hcall
        · exact .refuse _ _
  · next req scope call hphase =>
    split
    · exact .idle _
    · next replay hreplay =>
      split
      · next replay' hverify =>
        have hfst := congrArg Prod.fst hverify
        have hsnd := congrArg Prod.snd hverify
        simp only at hfst hsnd
        rw [← hfst]
        exact .proven hphase hreplay hsnd
      · next replay' e hverify =>
        have hsame := verifyDpopProof_error (congrArg Prod.snd hverify)
        rw [hverify] at hsame
        have hgoto : { s.goto c .finished with replay := some replay' } = s.goto c .finished := by
          rw [show replay' = replay from hsame, ← hreplay]
          rfl
        rw [hgoto]
        exact .refuse _ _
  · next req scope now hphase =>
    split
    · exact .uncached now hphase
    · next opts _ =>
      split
      · next store response hget =>
        have hfst := congrArg Prod.fst hget
        have hsnd := congrArg Prod.snd hget
        simp only at hfst hsnd
        rw [← hfst]
        exact .hit opts now hphase hsnd
      · next store hget =>
        have hfst := congrArg Prod.fst hget
        simp only at hfst
        rw [← hfst]
        exact .miss opts now hphase
  · next req scope result hphase =>
    split
    · exact .refuse _ _
    · next actorToken => exact .toExchange actorToken hphase
  · next req params result now hphase =>
    split
    · exact .refuse _ _
    · next response =>
      apply Moves.grant response now _ hphase
      split
      · exact Or.inl rfl
      · next opts _ => exact Or.inr ⟨opts, rfl⟩
  · exact .idle _

end AgentsAuth.Shim
