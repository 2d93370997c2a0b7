import AgentsAuth.AuthCurity.DpopReplay
import Mathlib.Data.Rat.Floor

/-!
# Making a DPoP proof and having it verified

`createDpopProof` and the reading of a token's binding of `packages/auth-curity/src/dpop.ts`,
and what `verifyDpopProof` does with a proof that was made so: each of its checks
compares one argument of the call with one argument of the making.
-/

namespace AgentsAuth.AuthCurity

open AgentsAuth.Base AgentsAuth.Lib

/-- `cnfJkt` of `dpop.ts:60–63`. -/
def cnfJkt (payload : Claims) : Option String :=
  Json.string? ((payload "cnf").bind fun cnf ↦ cnf.get? "jkt")

/-- `tokenCnfJkt` of `dpop.ts:69–75`; `decodeJwt` is `none` where it throws. -/
def tokenCnfJkt (decodeJwt : String → Option Claims) (token : String) : Option String :=
  (decodeJwt token).bind cnfJkt

/-- `DpopKey` of `dpop.ts:32–44`, less the nonce, which only the token endpoint asks for. -/
structure DpopKey (κ : Type) where
  privateKey : κ
  publicJwk : Json
  jkt : String

/-- `DpopProofInput` of `dpop.ts:77–83`. -/
structure DpopProofInput where
  htm : String
  htu : String
  accessToken : Option String
  nonce : Option String

/-- The protected header of a proof: `dpop.ts:94`. -/
def proofHeader (publicJwk : Json) : Json :=
  .obj [("typ", .str "dpop+jwt"), ("alg", .str "ES256"), ("jwk", publicJwk)]

/-- `iat` in whole seconds, as `setIssuedAt` computes it from the clock. -/
def issuedAt (nowMs : ℚ) : ℤ := ⌊nowMs / 1000⌋

/-- The payload of a proof: `dpop.ts:87–95`. -/
def proofPayload (sha256 : String → String) (input : DpopProofInput) (jti : String) (nowMs : ℚ) :
    Json :=
  .obj (Json.members [("htm", some (.str input.htm)), ("htu", some (.str input.htu)),
    ("jti", some (.str jti)),
    ("ath", (input.accessToken.filter (· ≠ "")).map fun token ↦ .str (sha256 token)),
    ("nonce", (input.nonce.filter (· ≠ "")).map Json.str),
    ("iat", some (.num ⟨issuedAt nowMs, toString (issuedAt nowMs)⟩))])

/-- Model of `packages/auth-curity/src/dpop.ts:86–97`; `sign` is `SignJWT`, `jti` is the value of
`randomUUID()`. -/
def createDpopProof {κ : Type} (sha256 : String → String) (sign : κ → Json → Json → String)
    (key : DpopKey κ) (input : DpopProofInput) (jti : String) (nowMs : ℚ) : String :=
  sign key.privateKey (proofHeader key.publicJwk) (proofPayload sha256 input jti nowMs)

/-- What is relied on for a proof signed by the key: the library reads its header back, verifies
it with the embedded key, and gives that key, which has no private part, the key's thumbprint. -/
structure ReadsBack {κ : Type} (tools : ProofTools) (key : DpopKey κ) (payload : Json)
    (proof : String) : Prop where
  header : tools.decodeProtectedHeader proof = some (proofHeader key.publicJwk)
  verified : tools.jwtVerify proof = .ok payload.get?
  thumbprint : tools.calculateJwkThumbprint key.publicJwk = key.jkt
  publicKey : ∃ members, key.publicJwk = .obj members ∧ members.lookup "d" = none

section Verify

variable {κ : Type} {tools : ProofTools} {key : DpopKey κ} {input : DpopProofInput}
  {jti : String} {nowMs : ℚ}

private theorem payload_claims {token : String} (htoken : token ≠ "")
    (haccess : input.accessToken = some token) :
    (proofPayload tools.sha256 input jti nowMs).get? "htm" = some (.str input.htm) ∧
    (proofPayload tools.sha256 input jti nowMs).get? "htu" = some (.str input.htu) ∧
    (proofPayload tools.sha256 input jti nowMs).get? "jti" = some (.str jti) ∧
    (proofPayload tools.sha256 input jti nowMs).get? "ath" = some (.str (tools.sha256 token)) ∧
    (proofPayload tools.sha256 input jti nowMs).get? "iat" =
      some (.num ⟨issuedAt nowMs, toString (issuedAt nowMs)⟩) := by
  have hath : input.accessToken.filter (· ≠ "") = some token := by
    simp [haccess, Option.filter, htoken]
  unfold proofPayload
  rw [hath]
  cases input.nonce.filter (· ≠ "") with
  | none => simp [Json.get?, Json.members, List.lookup_cons]
  | some nonce => simp [Json.get?, Json.members, List.lookup_cons]

/-- The checks of a proof made for a token pass exactly when the key, the method, the URL and the
digest of the token are those it was made with, and the clock is in its window. -/
theorem checkProof_made_iff {call : ProofCall} {token : String} {id : ProofId}
    (hread : ReadsBack tools key (proofPayload tools.sha256 input jti nowMs) call.proof)
    (htoken : token ≠ "") (haccess : input.accessToken = some token) :
    checkProof tools call = .ok id ↔
      call.jkt = key.jkt ∧ call.htm = input.htm ∧
      stripQuery tools call.htu = stripQuery tools input.htu ∧
      tools.sha256 call.accessToken = tools.sha256 token ∧
      withinWindow call (issuedAt nowMs) = true ∧ id = ⟨jti, issuedAt nowMs⟩ := by
  obtain ⟨hhtm, hhtu, hjti, hath, hiat⟩ :=
    @payload_claims tools input jti nowMs token htoken haccess
  obtain ⟨members, hjwk, hprivate⟩ := hread.publicKey
  have hheader : (proofHeader key.publicJwk).get? "jwk" = some key.publicJwk := rfl
  have htruthy : (some key.publicJwk).filter Json.truthy = some key.publicJwk := by
    rw [hjwk]
    rfl
  have hpublic : checkPublicKey (some key.publicJwk) = .ok () := by
    rw [checkPublicKey, htruthy, hjwk]
    simp [hprivate]
  simp only [checkProof, hread.header, hheader, hpublic, hread.verified, htruthy, Option.map_some,
    hread.thumbprint]
  by_cases hkey : call.jkt = key.jkt
  · rw [if_neg (by simp [hkey])]
    simp only [checkClaims, hhtm, hhtu, hath, hiat, hjti, Json.string?, Option.map_some]
    by_cases hmethod : call.htm = input.htm
    · by_cases hurl : stripQuery tools call.htu = stripQuery tools input.htu
      · by_cases hdigest : tools.sha256 call.accessToken = tools.sha256 token
        · cases hwindow : withinWindow call (issuedAt nowMs) with
          | true => simp [hkey, hmethod, hurl, hdigest, eq_comm]
          | false => simp [hmethod, hurl, hdigest]
        · simp [hmethod, hurl, hdigest, Ne.symm hdigest]
      · simp [hmethod, hurl, Ne.symm hurl]
    · simp [hmethod, Ne.symm hmethod]
  · rw [if_pos (by simpa [eq_comm] using hkey)]
    simp [hkey]

/-- With a clock in whole milliseconds of the next 140000 years the window of a proof is computed
exactly. -/
theorem withinWindow_iff_of_whole {call : ProofCall} {now iat : ℤ} (hcall : call.now = now)
    (hnow : |now| < 2 ^ 52) (hiat : |iat * 1000| < 2 ^ 52) :
    withinWindow call iat = true ↔ |call.now - iat * 1000| ≤ call.maxAgeMs := by
  have hmillis : double ((iat : ℚ) * 1000) = iat * 1000 := by
    exact_mod_cast double_intCast (n := iat * 1000) (hiat.trans (by norm_num))
  have hage : |now - iat * 1000| < 2 ^ 53 := by
    apply (abs_sub now (iat * 1000)).trans_lt
    linarith
  have hsub : double ((now : ℚ) - iat * 1000) = now - iat * 1000 := by
    exact_mod_cast double_intCast hage
  rw [withinWindow, decide_eq_true_iff, hcall, hmillis, hsub]

/-- A call does not throw exactly when the checks pass and the identifier is no replay. -/
theorem verifyDpopProof_ok_iff {cache : DpopReplayCache} {call : ProofCall} :
    (verifyDpopProof tools cache call).2 = .ok () ↔
      ∃ id, checkProof tools call = .ok id ∧ cache.isReplay id.jti call.now = false := by
  unfold verifyDpopProof
  cases hcheck : checkProof tools call with
  | error e => simp
  | ok id =>
    cases hreplay : cache.isReplay id.jti call.now with
    | true => simp [remember_of_isReplay hreplay, hreplay]
    | false => simp [remember_of_not_isReplay hreplay, hreplay]

end Verify
end AgentsAuth.AuthCurity
