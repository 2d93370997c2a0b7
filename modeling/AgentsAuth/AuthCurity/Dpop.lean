import AgentsAuth.AuthCurity.Verify
import AgentsAuth.Lib.Double
import AgentsAuth.Lib.InsertionMap
import AgentsAuth.Lib.Machine
import Mathlib.Algebra.Order.Group.Unbundled.Abs
import Mathlib.Algebra.Order.Ring.Rat
import Mathlib.Tactic.Linarith

/-!
# DPoP proofs and their replay cache

`packages/auth-curity/src/dpop.ts`: the checks of a proof, which depend on the call
alone, and the memory of accepted proof identifiers, which makes a proof single-use
for as long as it is remembered. Times are milliseconds, computed in double precision.
-/

namespace AgentsAuth.AuthCurity

open AgentsAuth.Base AgentsAuth.Lib

/-- What the proof checks use of `jose`, `node:crypto` and the `URL` class. -/
structure ProofTools where
  /-- `decodeProtectedHeader`; `none` is a thrown error. -/
  decodeProtectedHeader : String → Option Json
  /-- `jwtVerify` with the embedded key: the claims, or the message of the error. -/
  jwtVerify : String → Except String Claims
  calculateJwkThumbprint : Json → String
  /-- Base64url of SHA-256. -/
  sha256 : String → String
  /-- A URL written back without query and fragment; `none` where it does not parse. -/
  urlWithoutQuery : String → Option String

/-- How a proof check fails: `DpopProofError`, or a `TypeError` of the language. -/
inductive ProofError where
  | dpop (message : String)
  | typeError
deriving DecidableEq

/-- The options of a call to `verifyDpopProof` besides the cache: `dpop.ts:135–147`. -/
structure ProofCall where
  proof : String
  htm : String
  htu : String
  accessToken : String
  jkt : String
  maxAgeSec : Option ℚ
  now : ℚ
deriving DecidableEq

/-- `maxAgeMs`: `dpop.ts:163`. -/
def ProofCall.maxAgeMs (call : ProofCall) : ℚ := double (call.maxAgeSec.getD 60 * 1000)

/-- What a proof is remembered by. -/
structure ProofId where
  jti : String
  iat : ℚ
deriving DecidableEq

/-- The instant at which the window of a proof closes for a call: `dpop.ts:197`. -/
def ProofCall.closesAt (call : ProofCall) (id : ProofId) : ℚ :=
  double (double (id.iat * 1000) + call.maxAgeMs)

/-- Model of `packages/auth-curity/src/dpop.ts:149–158`. -/
def stripQuery (tools : ProofTools) (url : String) : String :=
  (tools.urlWithoutQuery url).getD url

/-- `'d' in jwk` for a truthy `jwk`: `dpop.ts:171–172`. -/
def checkPublicKey (jwk : Option Json) : Except ProofError Unit :=
  match jwk.filter Json.truthy with
  | none => .ok ()
  | some (.obj members) =>
    if (members.lookup "d").isSome then .error (.dpop "proof JWK contains private key material")
    else .ok ()
  | some (.arr _) => .ok ()
  | some _ => .error .typeError

/-- Text of a claim in a message: `String(claim)`. -/
def claimText (claim : Option Json) : String :=
  match claim with
  | none => "undefined"
  | some value => value.toText

/-- `Math.abs(now - iat * 1000) > maxAgeMs` does not hold. -/
def withinWindow (call : ProofCall) (iat : ℚ) : Bool :=
  |double (call.now - double (iat * 1000))| ≤ call.maxAgeMs

/-- The claim checks of a verified proof: `dpop.ts:187–196`. -/
def checkClaims (tools : ProofTools) (call : ProofCall) (claims : Claims) :
    Except ProofError ProofId :=
  if Json.string? (claims "htm") ≠ some call.htm then
    .error (.dpop ("htm mismatch: " ++ claimText (claims "htm")))
  else if (Json.string? (claims "htu")).map (stripQuery tools) ≠
      some (stripQuery tools call.htu) then
    .error (.dpop ("htu mismatch: " ++ claimText (claims "htu")))
  else if Json.string? (claims "ath") ≠ some (tools.sha256 call.accessToken) then
    .error (.dpop "ath does not match the presented access token")
  else
    match claims "iat" with
    | some (.num iat) =>
      if withinWindow call iat.value then
        match claims "jti" with
        | some (.str jti) => .ok ⟨jti, iat.value⟩
        | _ => .error (.dpop "proof jti missing or replayed")
      else .error (.dpop "iat outside the acceptance window")
    | _ => .error (.dpop "iat outside the acceptance window")

/-- Every check of `verifyDpopProof` but the replay cache's: `dpop.ts:161–198`. -/
def checkProof (tools : ProofTools) (call : ProofCall) : Except ProofError ProofId :=
  match tools.decodeProtectedHeader call.proof with
  | none => .error (.dpop "malformed proof")
  | some header =>
    match checkPublicKey (header.get? "jwk") with
    | .error e => .error e
    | .ok () =>
      match tools.jwtVerify call.proof with
      | .error message => .error (.dpop ("invalid proof signature or header: " ++ message))
      | .ok claims =>
        if ((header.get? "jwk").filter Json.truthy).map tools.calculateJwkThumbprint ≠
            some call.jkt then
          .error (.dpop "proof key does not match the token cnf.jkt")
        else checkClaims tools call claims

/-- `DpopReplayCache`: remembered identifiers with their expiry. `remember` returns only for a
positive bound. -/
structure DpopReplayCache where
  maxEntries : Nat
  positive : 0 < maxEntries
  seen : InsertionMap String ℚ

namespace DpopReplayCache

/-- A cache that has seen nothing. -/
def empty (maxEntries : Nat) (positive : 0 < maxEntries) : DpopReplayCache :=
  ⟨maxEntries, positive, .empty⟩

/-- The identifier is remembered and its window still open. -/
def isReplay (cache : DpopReplayCache) (jti : String) (nowMs : ℚ) : Bool :=
  (cache.seen.get? jti).any fun expiry ↦ nowMs < expiry

/-- The remembered identifiers whose window is still open. -/
def live (cache : DpopReplayCache) (nowMs : ℚ) : InsertionMap String ℚ :=
  cache.seen.filter fun _ expiry ↦ nowMs < expiry

/-- Model of `packages/auth-curity/src/dpop.ts:122–132`. -/
def remember (cache : DpopReplayCache) (jti : String) (expiresAtMs nowMs : ℚ) :
    DpopReplayCache × Bool :=
  if cache.isReplay jti nowMs then (cache, false)
  else
    let kept := (cache.live nowMs).evictTo (cache.maxEntries - 1)
    ({ cache with seen := kept.set jti expiresAtMs }, true)

end DpopReplayCache

/-- Model of `packages/auth-curity/src/dpop.ts:161–200`. -/
def verifyDpopProof (tools : ProofTools) (cache : DpopReplayCache) (call : ProofCall) :
    DpopReplayCache × Except ProofError Unit :=
  match checkProof tools call with
  | .error e => (cache, .error e)
  | .ok id =>
    match cache.remember id.jti (call.closesAt id) call.now with
    | (cache, true) => (cache, .ok ())
    | (cache, false) => (cache, .error (.dpop "proof jti missing or replayed"))

end AgentsAuth.AuthCurity
