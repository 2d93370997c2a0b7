import AgentsAuth.AuthCurity.DpopProof
import AgentsAuth.Base.Headers
import AgentsAuth.Shim.ExchangeHandler

/-!
# A fetch that proves possession

`withDpop` of `packages/agent-runtime/src/dpop-fetch.ts`: a request with a bound token in
its `Bearer` credentials goes out with the `DPoP` scheme and a proof for its method, its
URL and the token; every other request goes out as it came. The proof is the one that
`verifyDpopProof` accepts for this request, and for no other.
-/

namespace AgentsAuth.Runtime

open AgentsAuth.AuthCurity AgentsAuth.Base AgentsAuth.Lib

/-- What the wrapper uses of `jose`, of the `URL` class and of `String.prototype.toUpperCase`,
besides what the verifier does. -/
structure FetchTools (κ : Type) extends ProofTools where
  sign : κ → Json → Json → String
  decodeJwt : String → Option Claims
  toUpperCase : String → String

/-- The first argument of `fetch`. -/
inductive FetchInput where
  | text (url : String)
  | url (href : String)
  | request (url method : String) (headers : Headers)

/-- The `headers` member of the second argument. -/
inductive HeadersInit where
  | object (headers : Headers)
  | pairs (fields : List (String × String))

/-- The second argument of `fetch`; `rest` holds its members besides `method` and `headers`. -/
structure RequestInit (ρ : Type) where
  method : Option String
  headers : Option HeadersInit
  rest : List (String × ρ)

/-- A call of a fetch. -/
structure FetchCall (ρ : Type) where
  input : FetchInput
  init : Option (RequestInit ρ)

/-- Model of `packages/agent-runtime/src/dpop-fetch.ts:3–5`. -/
def urlOf : FetchInput → String
  | .text url => url
  | .url href => href
  | .request url _ _ => url

/-- `new Headers(init)`; `none` where it throws. -/
def newHeaders : Option HeadersInit → Option Headers
  | none => some .empty
  | some (.object headers) => some headers
  | some (.pairs fields) => fields.foldlM (fun headers f ↦ headers.append f.1 f.2) .empty

namespace FetchCall

variable {ρ : Type} (call : FetchCall ρ)

/-- The headers of the call: `dpop-fetch.ts:29`. -/
def headers : Option Headers :=
  newHeaders ((call.init.bind RequestInit.headers).or
    (match call.input with
      | .request _ _ headers => some (.object headers)
      | _ => none))

/-- The method of the call: `dpop-fetch.ts:33`. -/
def method (toUpperCase : String → String) : String :=
  toUpperCase ((call.init.bind RequestInit.method).getD
    (match call.input with
      | .request _ method _ => method
      | _ => "GET"))

end FetchCall

/-- The token that `/^Bearer\s+(\S+)$/i` finds. -/
def bearerCredentials (authorization : String) : Option String :=
  let scheme := (authorization.toList.take 6).map Char.toLower
  let rest := authorization.toList.drop 6
  let token := rest.dropWhile isSpace
  if scheme = "bearer".toList ∧ token.length < rest.length ∧ token ≠ [] ∧
      token.all (fun c ↦ !isSpace c) then
    some (String.ofList token)
  else none

/-- The bound token that a request carries: `dpop-fetch.ts:30–31`. -/
def boundToken {κ : Type} (tools : FetchTools κ) (headers : Headers) : Option String :=
  (bearerCredentials ((headers.get "authorization").getD "")).filter fun token ↦
    ((tokenCnfJkt tools.decodeJwt token).filter (· ≠ "")).isSome

/-- What the proof of a call is made from: `dpop-fetch.ts:35`. -/
def proofInput {κ ρ : Type} (tools : FetchTools κ) (call : FetchCall ρ) (htu token : String) :
    DpopProofInput :=
  ⟨call.method tools.toUpperCase, htu, some token, none⟩

/-- The call that reaches the inner fetch, or `none` where the wrapper throws a `TypeError`: model
of `packages/agent-runtime/src/dpop-fetch.ts:27–38`. `jti` and `nowMs` are the values of
`randomUUID()` and of the clock. -/
def withDpop {κ ρ : Type} (tools : FetchTools κ) (key : DpopKey κ) (call : FetchCall ρ)
    (jti : String) (nowMs : ℚ) : Option (FetchCall ρ) := do
  let headers ← call.headers
  match boundToken tools headers with
  | none => some call
  | some token =>
    let headers ← headers.set "authorization" ("DPoP " ++ token)
    let htu ← tools.urlWithoutQuery (urlOf call.input)
    let headers ← headers.set "dpop"
      (createDpopProof tools.sha256 tools.sign key (proofInput tools call htu token) jti nowMs)
    some ⟨call.input, some ⟨some (call.method tools.toUpperCase), some (.object headers),
      (call.init.map RequestInit.rest).getD []⟩⟩

/-- The characters of a compact JWS. -/
def compactAlphabet : List Char :=
  "ABCDEFGHIJKLMNOPQRSTUVWXYZabcdefghijklmnopqrstuvwxyz0123456789-_.".toList

/-- The text has the characters of a compact JWS, as every signed token has. -/
def IsCompact (text : String) : Prop := ∀ c ∈ text.toList, c ∈ compactAlphabet

instance (text : String) : Decidable (IsCompact text) :=
  List.decidableBAll (· ∈ compactAlphabet) text.toList

section Values

private theorem isHttpSpace_of_isSpace {c : Char} (h : isSpace c = false) :
    isHttpSpace c = false := by
  have hother : c.toNat ≠ 9 ∧ c.toNat ≠ 10 ∧ c.toNat ≠ 13 ∧ c.toNat ≠ 32 := by
    simp [isSpace] at h
    omega
  simp [isHttpSpace, hother]

/-- A token found is not empty, free of white space, and a part of the value. -/
theorem bearerCredentials_eq_some {authorization token : String}
    (h : bearerCredentials authorization = some token) :
    token ≠ "" ∧ (∀ c ∈ token.toList, isSpace c = false) ∧ token.toList ⊆ authorization.toList := by
  unfold bearerCredentials at h
  simp only [Option.ite_none_right_eq_some] at h
  obtain ⟨⟨-, -, hne, hall⟩, htoken⟩ := h
  cases htoken
  rw [String.toList_ofList]
  refine ⟨?_, ?_, ?_⟩
  · intro hempty
    exact hne (by simpa using congrArg String.toList hempty)
  · intro c hc
    simpa using List.all_eq_true.mp hall c hc
  · exact ((List.dropWhile_sublist _).trans (List.drop_sublist _ _)).subset

/-- The credentials of a token found can be set as they are. -/
theorem exists_set_authorization {headers : Headers} {token : String}
    (h : bearerCredentials ((headers.get "authorization").getD "") = some token) :
    ∃ headers', headers.set "authorization" ("DPoP " ++ token) = some headers' ∧
      normalizeValue ("DPoP " ++ token) = "DPoP " ++ token := by
  obtain ⟨hne, hspace, hsubset⟩ := bearerCredentials_eq_some h
  have hnormal : normalizeValue ("DPoP " ++ token) = "DPoP " ++ token := by
    apply normalizeValue_eq_self
    · intro c hc
      rw [String.toList_append] at hc
      cases hc
      rfl
    · intro c hc
      have htoken : token.toList ≠ [] := fun hnil ↦ hne (String.toList_eq_nil_iff.mp hnil)
      rw [String.toList_append, List.getLast?_append_of_ne_nil _ htoken] at hc
      exact isHttpSpace_of_isSpace (hspace c (List.mem_of_getLast? hc))
  have hvalue : ("DPoP " ++ token).toList.all isValueChar = true := by
    rw [String.toList_append, List.all_append, Bool.and_eq_true]
    refine ⟨by decide, ?_⟩
    cases hget : headers.get "authorization" with
    | none =>
      rw [hget] at hsubset
      have hnil := List.subset_nil.mp hsubset
      rw [hnil]
      rfl
    | some value =>
      rw [hget] at hsubset
      have hall := Headers.all_isValueChar_of_get hget
      rw [List.all_eq_true] at hall ⊢
      exact fun c hc ↦ hall c (hsubset hc)
  obtain ⟨headers', hset⟩ := @Headers.exists_set "authorization" ("DPoP " ++ token) headers
    (by decide) (hnormal.symm ▸ hvalue)
  exact ⟨headers', hset, hnormal⟩

/-- A compact text can be set as it is. -/
theorem exists_set_proof (headers : Headers) {proof : String} (h : IsCompact proof) :
    ∃ headers', headers.set "dpop" proof = some headers' ∧ normalizeValue proof = proof := by
  have halphabet : ∀ c ∈ compactAlphabet, isValueChar c = true ∧ isHttpSpace c = false := by
    have hall : (compactAlphabet.all fun c ↦ isValueChar c && !isHttpSpace c) = true := by decide
    simpa using hall
  have hnormal : normalizeValue proof = proof := by
    apply normalizeValue_eq_self
    · exact fun c hc ↦ (halphabet c (h c (List.mem_of_head? hc))).2
    · exact fun c hc ↦ (halphabet c (h c (List.mem_of_getLast? hc))).2
  have hvalue : proof.toList.all isValueChar = true :=
    List.all_eq_true.mpr fun c hc ↦ (halphabet c (h c hc)).1
  obtain ⟨headers', hset⟩ := @Headers.exists_set "dpop" proof headers (by decide)
    (hnormal.symm ▸ hvalue)
  exact ⟨headers', hset, hnormal⟩

end Values

section Fetch

variable {κ ρ : Type} {tools : FetchTools κ} {key : DpopKey κ} {call : FetchCall ρ}
  {headers : Headers} {jti : String} {nowMs : ℚ}

/-- A request without a bound token goes out as it came. -/
theorem withDpop_of_not_bound (hheaders : call.headers = some headers)
    (hbound : boundToken tools headers = none) :
    withDpop tools key call jti nowMs = some call := by
  unfold withDpop
  rw [hheaders]
  simp only [Option.bind_eq_bind, Option.bind_some, hbound]

/-- A request with a bound token goes out with the token in the `DPoP` scheme and the proof;
nothing else of it changes. -/
theorem withDpop_of_bound {token base : String} (hheaders : call.headers = some headers)
    (hbound : boundToken tools headers = some token)
    (hbase : tools.urlWithoutQuery (urlOf call.input) = some base)
    (hcompact : IsCompact
      (createDpopProof tools.sha256 tools.sign key (proofInput tools call base token) jti nowMs)) :
    ∃ sent : Headers, withDpop tools key call jti nowMs =
        some ⟨call.input, some ⟨some (call.method tools.toUpperCase), some (.object sent),
          (call.init.map RequestInit.rest).getD []⟩⟩ ∧
      sent.get "authorization" = some ("DPoP " ++ token) ∧
      sent.get "dpop" = some
        (createDpopProof tools.sha256 tools.sign key (proofInput tools call base token) jti nowMs) ∧
      ∀ name, lowerName name ≠ "authorization" → lowerName name ≠ "dpop" →
        sent.get name = headers.get name := by
  have hfound := (Option.filter_eq_some_iff.mp hbound).1
  obtain ⟨headers', hauth, hauthValue⟩ := exists_set_authorization hfound
  obtain ⟨sent, hproof, hproofValue⟩ := exists_set_proof headers' hcompact
  refine ⟨sent, ?_, ?_, ?_, ?_⟩
  · unfold withDpop
    rw [hheaders]
    simp only [Option.bind_eq_bind, Option.bind_some, hbound, hauth, hbase, hproof]
  · rw [Headers.get_set_ne hproof (by decide), Headers.get_set_self hauth, hauthValue]
  · rw [Headers.get_set_self hproof, hproofValue]
  · intro name hauthName hproofName
    rw [Headers.get_set_ne hproof hproofName, Headers.get_set_ne hauth hauthName]

/-- A call that presents the proof of a request is accepted exactly when it is about that request,
in time, and the first with its identifier. -/
theorem verify_proof_iff {token base : String} {cache : DpopReplayCache} {verify : ProofCall}
    (hroundTrip : tools.urlWithoutQuery base = some base) (htoken : token ≠ "")
    (hread : ReadsBack tools.toProofTools key
      (proofPayload tools.sha256 (proofInput tools call base token) jti nowMs) verify.proof)
    (hsha : tools.sha256 verify.accessToken = tools.sha256 token → verify.accessToken = token) :
    (verifyDpopProof tools.toProofTools cache verify).2 = .ok () ↔
      verify.jkt = key.jkt ∧ verify.htm = call.method tools.toUpperCase ∧
      tools.urlWithoutQuery verify.htu = some base ∧ verify.accessToken = token ∧
      withinWindow verify (issuedAt nowMs) = true ∧
      cache.isReplay jti verify.now = false := by
  have hurl : stripQuery tools.toProofTools verify.htu = stripQuery tools.toProofTools base ↔
      tools.urlWithoutQuery verify.htu = some base := by
    rw [stripQuery, stripQuery, hroundTrip, Option.getD_some]
    cases h : tools.urlWithoutQuery verify.htu with
    | some stripped => simp
    | none =>
      refine iff_of_false ?_ (by simp)
      intro heq
      rw [Option.getD_none] at heq
      rw [heq, hroundTrip] at h
      cases h
  have hdigest : tools.sha256 verify.accessToken = tools.sha256 token ↔
      verify.accessToken = token := ⟨hsha, fun h ↦ by rw [h]⟩
  rw [verifyDpopProof_ok_iff]
  constructor
  · rintro ⟨id, hcheck, hfresh⟩
    obtain ⟨hkey, hmethod, hstrip, hath, hwindow, rfl⟩ :=
      (checkProof_made_iff hread htoken rfl).mp hcheck
    exact ⟨hkey, hmethod, hurl.mp hstrip, hdigest.mp hath, hwindow, hfresh⟩
  · rintro ⟨hkey, hmethod, hstrip, hath, hwindow, hfresh⟩
    exact ⟨_, (checkProof_made_iff hread htoken rfl).mpr
      ⟨hkey, hmethod, hurl.mpr hstrip, hdigest.mpr hath, hwindow, rfl⟩, hfresh⟩

end Fetch

/-- Client and verifier agree. A request without a bound token goes out unchanged. One with a bound
token goes out with a proof that the verifier accepts for this key, this method, this URL up to
query and fragment and this token, in time and unless its identifier is remembered, and that it
accepts for nothing else. In time is what it says, also as computed, for clocks in whole
milliseconds. -/
theorem withDpop_verified {κ ρ : Type} (tools : FetchTools κ) (key : DpopKey κ)
    (call : FetchCall ρ) (jti : String) (nowMs : ℚ) (headers : Headers)
    (hheaders : call.headers = some headers) :
    (boundToken tools headers = none → withDpop tools key call jti nowMs = some call) ∧
    ∀ token base proof, boundToken tools headers = some token →
      tools.urlWithoutQuery (urlOf call.input) = some base →
      tools.urlWithoutQuery base = some base →
      proof = createDpopProof tools.sha256 tools.sign key (proofInput tools call base token) jti
        nowMs →
      IsCompact proof →
      ReadsBack tools.toProofTools key
        (proofPayload tools.sha256 (proofInput tools call base token) jti nowMs) proof →
      ∃ sent : Headers, withDpop tools key call jti nowMs =
          some ⟨call.input, some ⟨some (call.method tools.toUpperCase), some (.object sent),
            (call.init.map RequestInit.rest).getD []⟩⟩ ∧
        sent.get "authorization" = some ("DPoP " ++ token) ∧ sent.get "dpop" = some proof ∧
        (∀ name, lowerName name ≠ "authorization" → lowerName name ≠ "dpop" →
          sent.get name = headers.get name) ∧
        ∀ (cache : DpopReplayCache) (verify : ProofCall), verify.proof = proof →
          (tools.sha256 verify.accessToken = tools.sha256 token → verify.accessToken = token) →
          ((verifyDpopProof tools.toProofTools cache verify).2 = .ok () ↔
            verify.jkt = key.jkt ∧ verify.htm = call.method tools.toUpperCase ∧
            tools.urlWithoutQuery verify.htu = some base ∧ verify.accessToken = token ∧
            withinWindow verify (issuedAt nowMs) = true ∧
            cache.isReplay jti verify.now = false) ∧
          ∀ now : ℤ, verify.now = now → |now| < 2 ^ 52 → |issuedAt nowMs * 1000| < 2 ^ 52 →
            (withinWindow verify (issuedAt nowMs) = true ↔
              |verify.now - issuedAt nowMs * 1000| ≤ verify.maxAgeMs) := by
  refine ⟨withDpop_of_not_bound hheaders, ?_⟩
  rintro token base proof hbound hbase hroundTrip rfl hcompact hread
  obtain ⟨sent, hcall, hauth, hproof, hothers⟩ :=
    @withDpop_of_bound κ ρ tools key call headers jti nowMs token base hheaders hbound hbase
      hcompact
  refine ⟨sent, hcall, hauth, hproof, hothers, ?_⟩
  rintro cache verify hverify hsha
  have htoken : token ≠ "" :=
    (bearerCredentials_eq_some (Option.filter_eq_some_iff.mp hbound).1).1
  refine ⟨verify_proof_iff hroundTrip htoken (hverify ▸ hread) hsha, ?_⟩
  intro now hnow hsmall hissued
  exact withinWindow_iff_of_whole hnow hsmall hissued

section Sample

private def sampleKey : DpopKey Unit := ⟨(), .obj [("kty", .str "EC")], "thumbprint"⟩

private def sampleInput : DpopProofInput :=
  ⟨"POST", "https://mcp-gateway.localtest.me/inspect/mcp", some "e30.alice.sig", none⟩

/-- Tools that know one key, one token, one URL and one proof. -/
private def sampleFetchTools : FetchTools Unit where
  decodeProtectedHeader := fun _ ↦ some (proofHeader sampleKey.publicJwk)
  jwtVerify := fun _ ↦ .ok (proofPayload (fun _ ↦ "Nj9EzCy1krBXIrsF6jhjMvUYkvGrt3LgWKtr2nbapqY")
    sampleInput "f4d7" 1000250).get?
  calculateJwkThumbprint := fun _ ↦ "thumbprint"
  sha256 := fun _ ↦ "Nj9EzCy1krBXIrsF6jhjMvUYkvGrt3LgWKtr2nbapqY"
  urlWithoutQuery := fun _ ↦ some "https://mcp-gateway.localtest.me/inspect/mcp"
  sign := fun _ _ _ ↦ "e30.proof.sig"
  decodeJwt := fun _ ↦ some fun name ↦
    if name = "cnf" then some (.obj [("jkt", .str "thumbprint")]) else none
  toUpperCase := fun s ↦ String.ofList (s.toList.map Char.toUpper)

private def sampleFetchCall : FetchCall Unit :=
  ⟨.text "https://mcp-gateway.localtest.me/inspect/mcp?q=1",
    some ⟨some "post", some (.pairs [("Authorization", "Bearer e30.alice.sig")]), [("body", ())]⟩⟩

private def sampleVerify : ProofCall :=
  ⟨"e30.proof.sig", "POST", "https://mcp-gateway.localtest.me/inspect/mcp#top", "e30.alice.sig",
    "thumbprint", none, 1030000⟩

/-- A proof made at one second is accepted half a minute later, under another fragment. -/
theorem withDpop_verified_sample :
    (verifyDpopProof sampleFetchTools.toProofTools (.empty 10000 (by decide)) sampleVerify).2 =
      .ok () := by
  have hfound : sampleFetchCall.headers.map (boundToken sampleFetchTools) =
      some (some "e30.alice.sig") := by decide
  obtain ⟨headers, hheaders, hbound⟩ := Option.map_eq_some_iff.mp hfound
  have hissued : issuedAt 1000250 = 1000 := by
    rw [issuedAt, Int.floor_eq_iff]
    norm_num
  obtain ⟨sent, -, -, -, -, hverify⟩ :=
    (withDpop_verified sampleFetchTools sampleKey sampleFetchCall "f4d7" 1000250 headers
      hheaders).2 "e30.alice.sig" "https://mcp-gateway.localtest.me/inspect/mcp" "e30.proof.sig"
      hbound rfl rfl rfl (by decide) ⟨rfl, rfl, rfl, _, rfl, rfl⟩
  obtain ⟨hverified, hwindow⟩ :=
    hverify (.empty 10000 (by decide)) sampleVerify rfl fun _ ↦ rfl
  apply hverified.mpr
  refine ⟨rfl, by decide, rfl, rfl, ?_, rfl⟩
  rw [hwindow 1030000 (by norm_num [sampleVerify]) (by norm_num) (by norm_num [hissued]), hissued]
  have hage : sampleVerify.maxAgeMs = 60000 := by
    decide +kernel
  rw [hage]
  norm_num [sampleVerify]

end Sample
end AgentsAuth.Runtime
