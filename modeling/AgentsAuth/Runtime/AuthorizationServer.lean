import AgentsAuth.AuthCurity.Exchange
import AgentsAuth.Lib.InsertionMap

/-!
# Authorization-server metadata

`packages/agent-runtime/src/authorization-server.ts`: RFC 8414 metadata of an issuer, with
the checks that a document has to pass and a cache under the issuer without trailing
slashes. The MCP SDK fetches the document and judges its token endpoint.
-/

namespace AgentsAuth.Runtime

open AgentsAuth.AuthCurity AgentsAuth.Base AgentsAuth.Lib

/-- `u.replace(/\/+$/, '')`. -/
def normalizeUrl (u : String) : String :=
  String.ofList ((u.toList.reverse.dropWhile (· = '/')).reverse)

/-- `u.startsWith('https://')`. -/
def isHttps (u : String) : Bool := "https://".toList.isPrefixOf u.toList

/-- What `new URL(…)` knows about a URL. -/
structure Url where
  protocol : String
  origin : String
  pathname : String
  href : String

/-- The URL parser and the MCP SDK, where an error is the message thrown. -/
structure Sdk where
  parseUrl : String → Except String Url
  /-- `assertSecureTokenEndpoint(endpoint).href`. -/
  assertSecureTokenEndpoint : String → Except String String

/-- `ResolvedAuthorizationServer` of `authorization-server.ts:21–25`. -/
structure ResolvedAuthorizationServer where
  issuer : String
  tokenEndpoint : String
  metadata : Json

/-- An entry of the metadata cache. -/
structure MetadataEntry where
  value : ResolvedAuthorizationServer
  fetchedAt : Int

/-- The metadata cache of the process. -/
abbrev MetadataCache := InsertionMap String MetadataEntry

/-- `${metadata.issuer}`. -/
private def issuerText (metadata : Json) : String :=
  (metadata.get? "issuer").elim "undefined" Json.toText

/-- Model of `authorization-server.ts:47–67`. -/
def validateAuthorizationServerMetadata (sdk : Sdk) (metadata : Json) :
    Except CurityAuthError ResolvedAuthorizationServer :=
  match metadata.get? "client_id_metadata_document_supported" with
  | some (.bool true) =>
    match (Json.string? (metadata.get? "token_endpoint")).filter (· ≠ "") with
    | none => .error ⟨issuerText metadata ++ " metadata has no token_endpoint", .discoveryFailed⟩
    | some endpoint =>
      match sdk.assertSecureTokenEndpoint endpoint with
      | .error message => .error ⟨"token_endpoint rejected: " ++ message, .discoveryFailed⟩
      | .ok href => .ok ⟨issuerText metadata, href, metadata⟩
  | _ =>
    .error ⟨issuerText metadata ++ " does not advertise " ++
      "client_id_metadata_document_supported=true; this client can only register via Client ID " ++
      "Metadata Documents", .cimdUnsupported⟩

/-- An entry that a caller still uses: `hit && !force && ttlMs > 0 && now - at < ttlMs`. -/
def reusable (force : Bool) (ttlMs now storedAt : Int) : Bool :=
  !force && 0 < ttlMs && now - storedAt < ttlMs

/-- The metadata that the network yields for an issuer, checked:
`authorization-server.ts:88–104`. -/
def fetchMetadata (sdk : Sdk) (fetch : String → Except String (Option Json)) (key : String) :
    Except CurityAuthError ResolvedAuthorizationServer :=
  match fetch key with
  | .error message =>
    .error ⟨"authorization server metadata for " ++ key ++ ": " ++ message, .discoveryFailed⟩
  | .ok none =>
    .error ⟨"no authorization server metadata found for " ++ key ++
      " (tried RFC 8414 and OIDC well-known URLs)", .discoveryFailed⟩
  | .ok (some metadata) => validateAuthorizationServerMetadata sdk metadata

/-- Model of `authorization-server.ts:69–109`; `fetch` is `discoverAuthorizationServerMetadata`. -/
def resolveAuthorizationServer (sdk : Sdk) (cache : MetadataCache) (issuer : String)
    (force : Bool) (ttlMs : Int) (fetch : String → Except String (Option Json))
    (now fetchedAt : Int) : MetadataCache × Except CurityAuthError ResolvedAuthorizationServer :=
  let key := normalizeUrl issuer
  if !isHttps key then
    (cache, .error ⟨"authorization server " ++ key ++ " is not https", .discoveryFailed⟩)
  else
    match (cache.get? key).filter fun hit ↦ reusable force ttlMs now hit.fetchedAt with
    | some hit => (cache, .ok hit.value)
    | none =>
      match fetchMetadata sdk fetch key with
      | .error e => (cache, .error e)
      | .ok value => (cache.set key ⟨value, fetchedAt⟩, .ok value)

section Resolution

variable {sdk : Sdk} {cache : MetadataCache} {issuer : String} {force : Bool} {ttlMs : Int}
  {fetch : String → Except String (Option Json)} {now fetchedAt : Int}

/-- A resolved server is a cached one that the caller still uses or a fetched one, under the issuer
without trailing slashes. -/
theorem resolve_ok {value : ResolvedAuthorizationServer}
    (h : (resolveAuthorizationServer sdk cache issuer force ttlMs fetch now fetchedAt).2 =
      .ok value) :
    (∃ entry, cache.get? (normalizeUrl issuer) = some entry ∧
        reusable force ttlMs now entry.fetchedAt = true ∧ entry.value = value) ∨
      fetchMetadata sdk fetch (normalizeUrl issuer) = .ok value := by
  unfold resolveAuthorizationServer at h
  simp only at h
  split at h
  · cases h
  · split at h
    · next hit hhit =>
      cases h
      obtain ⟨hget, hreusable⟩ := Option.filter_eq_some_iff.mp hhit
      exact Or.inl ⟨hit, hget, hreusable, rfl⟩
    · split at h
      · cases h
      · next value' hfetch =>
        cases h
        exact Or.inr hfetch

/-- Whatever holds of the cached and of the fetched servers holds of the cache afterwards. -/
theorem forall_resolve {P : String → MetadataEntry → Prop} (h : cache.Forall P)
    (hfetch : ∀ value, fetchMetadata sdk fetch (normalizeUrl issuer) = .ok value →
      P (normalizeUrl issuer) ⟨value, fetchedAt⟩) :
    (resolveAuthorizationServer sdk cache issuer force ttlMs fetch now fetchedAt).1.Forall P := by
  unfold resolveAuthorizationServer
  simp only
  split
  · exact h
  · split
    · exact h
    · split
      · exact h
      · next value hvalue =>
        apply h.set
        exact hfetch value hvalue

end Resolution
end AgentsAuth.Runtime
