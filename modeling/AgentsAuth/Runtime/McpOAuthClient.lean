import AgentsAuth.Lib.Fallible
import AgentsAuth.Lib.Machine
import AgentsAuth.Runtime.AuthorizationServer

/-!
# MCP client authorization

`packages/agent-runtime/src/mcp-oauth-client.ts`: discovery of the authorization server of an
MCP server, with a cache of the whole process, and the authorization provider of one
request on top of it. A call runs to its end with the HTTP answers and the clock values
that its event carries.
-/

namespace AgentsAuth.Runtime

open AgentsAuth.AuthCurity AgentsAuth.Base AgentsAuth.Lib

/-- What `extractWWWAuthenticateParams` reads of a response, and the header itself. -/
structure Challenge where
  resourceMetadataUrl : Option Url
  scope : Option String
  error : Option String
  wwwAuthenticate : String

/-- The options of `discoverMcpAuthorization` that decide its result:
`mcp-oauth-client.ts:137–158`. -/
structure DiscoverOpts where
  challenge : Option Challenge
  force : Bool
  ttlMs : Option Int
  allowedAuthorizationServers : Option (List String)

/-- A call of `discoverMcpAuthorization`. -/
structure DiscoverCall where
  serverUrl : String
  opts : DiscoverOpts

/-- The HTTP answers that a call meets: to the probe and to a GET of a metadata document, where
an error is the message of a failed fetch or parse, and what the SDK finds for an issuer. -/
structure Network where
  probe : String → Except String (Nat × Challenge)
  get : String → Except String (Nat × Except String Json)
  discoverMetadata : String → Except String (Option Json)

/-- The clock values of a call, in the order in which they are read. -/
structure Clock where
  now : Int
  metadataNow : Int
  fetchedAt : Int
  discoveredAt : Int

/-- `scopeSource`. -/
inductive ScopeSource where
  | challenge
  | scopesSupported
deriving DecidableEq

/-- `McpAuthDiscovery` of `mcp-oauth-client.ts:41–55`. -/
structure McpAuthDiscovery where
  serverUrl : String
  resourceMetadataUrl : String
  resourceMetadata : Json
  authorizationServer : String
  authorizationServerMetadata : Json
  tokenEndpoint : String
  scope : String
  scopeSource : ScopeSource
  discoveredAt : Int

/-- The caches of the process. -/
structure Caches where
  discovery : InsertionMap String McpAuthDiscovery
  metadata : MetadataCache

/-- `DISCOVERY_TTL_MS`. -/
def discoveryTtlMs : Int := 10 * 60000

/-- A discovery failure with its message. -/
def discoveryFailed (message : String) : Thrown := .curityAuth ⟨message, .discoveryFailed⟩

/-- Model of `mcp-oauth-client.ts:82–106`. -/
def probeUnauthenticated (net : Network) (serverUrl : String) : Except Thrown Challenge :=
  match net.probe serverUrl with
  | .error message =>
    .error (discoveryFailed ("unauthenticated probe of " ++ serverUrl ++ " failed: " ++ message))
  | .ok (status, challenge) =>
    if status ≠ 401 then
      .error (discoveryFailed ("unauthenticated probe of " ++ serverUrl ++ " answered " ++
        toString status ++ ", expected 401 with a WWW-Authenticate challenge"))
    else .ok challenge

/-- Model of `mcp-oauth-client.ts:108–123`; the error is its description. -/
def fetchPrm (net : Network) (url : String) : Except String (Option Json) := do
  let (status, body) ← net.get url
  if status = 404 then return none
  if ¬ (200 ≤ status ∧ status ≤ 299) then
    .error ("Error: " ++ url ++ " answered " ++ toString status)
  let doc ← body
  match Json.string? (doc.get? "resource") with
  | some _ => return some doc
  | none =>
    .error ("Error: " ++ url ++ " is not a protected resource metadata document (no string " ++
      "\"resource\")")

/-- Model of `mcp-oauth-client.ts:129–134`; an invalid URL throws. -/
def wellKnownPrmUrls (sdk : Sdk) (serverUrl : String) : Except Thrown (List String) :=
  match sdk.parseUrl serverUrl with
  | .error message => .error (.other "TypeError" message)
  | .ok u =>
    let root := u.origin ++ "/.well-known/oauth-protected-resource"
    let path := normalizeUrl u.pathname
    .ok (if path = "" then [root] else [root ++ path, root])

/-- The first candidate that answers: `mcp-oauth-client.ts:186–198`. -/
def findPrm (net : Network) : List String → Except Thrown (Option (String × Json))
  | [] => .ok none
  | url :: candidates =>
    match fetchPrm net url with
    | .error message => .error (discoveryFailed ("protected resource metadata: " ++ message))
    | .ok none => findPrm net candidates
    | .ok (some prm) => .ok (some (url, prm))

/-- `value?.[0]`. -/
def index0 : Option Json → Option Json
  | some (.arr items) => items.head?
  | some (.str s) => s.toList.head?.map fun c ↦ .str (String.singleton c)
  | some (.obj members) => members.lookup "0"
  | _ => none

/-- The candidates for the metadata document: `mcp-oauth-client.ts:179–185`. -/
def prmCandidates (sdk : Sdk) (key : String) (fromHeader : Option Url) :
    Except Thrown (List String) :=
  match fromHeader with
  | none => wellKnownPrmUrls sdk key
  | some u =>
    if u.protocol ≠ "https:" then
      .error (discoveryFailed ("resource_metadata in the challenge from " ++ key ++
        " is not https: " ++ u.href))
    else .ok [u.href]

/-- The authorization server that a document names for this server:
`mcp-oauth-client.ts:206–222`. -/
def namedServer (key prmUrl : String) (prm : Json) : Except Thrown String := do
  let resource := (Json.string? (prm.get? "resource")).getD ""
  if normalizeUrl resource ≠ key then
    .error (.curityAuth ⟨"protected resource metadata at " ++ prmUrl ++ " describes " ++ resource ++
      ", not " ++ key, .resourceMismatch⟩)
  match (index0 (prm.get? "authorization_servers")).filter (·.truthy) with
  | none =>
    .error (discoveryFailed
      ("protected resource metadata at " ++ prmUrl ++ " lists no authorization_servers"))
  | some (.str authorizationServer) =>
    if isHttps authorizationServer then return authorizationServer
    else
      .error (discoveryFailed ("protected resource metadata at " ++ prmUrl ++
        " names a non-https authorization server: " ++ authorizationServer))
  | some _ => .error (.other "TypeError" "authorizationServer.startsWith is not a function")

/-- The trust boundary: `mcp-oauth-client.ts:223–232`. -/
def checkAllowed (prmUrl authorizationServer : String) (allowed : Option (List String)) :
    Except Thrown Unit :=
  match allowed with
  | none => .ok ()
  | some servers =>
    let allowed := servers.map normalizeUrl
    if allowed.contains (normalizeUrl authorizationServer) then .ok ()
    else
      .error (discoveryFailed ("protected resource metadata at " ++ prmUrl ++
        " names authorization server " ++ authorizationServer ++
        ", which this client does not trust (allowed: " ++ ", ".intercalate allowed ++ ")"))

/-- What the challenge and the metadata document say. -/
structure Located where
  challengeScope : Option String
  prmUrl : String
  prm : Json
  authorizationServer : String

/-- Steps 1 and 2 of an uncached discovery: `mcp-oauth-client.ts:167–232`. -/
def locate (sdk : Sdk) (net : Network) (call : DiscoverCall) : Except Thrown Located := do
  let key := normalizeUrl call.serverUrl
  let challenge ← call.opts.challenge.elim (probeUnauthenticated net key) .ok
  let candidates ← prmCandidates sdk key challenge.resourceMetadataUrl
  let some (prmUrl, prm) ← findPrm net candidates
    | .error (discoveryFailed ("no protected resource metadata for " ++ key ++ " (tried " ++
        ", ".intercalate candidates ++ ")"))
  let authorizationServer ← namedServer key prmUrl prm
  checkAllowed prmUrl authorizationServer call.opts.allowedAuthorizationServers
  return ⟨challenge.scope, prmUrl, prm, authorizationServer⟩

/-- `prm.scopes_supported?.join(' ')` where `length` is positive: `mcp-oauth-client.ts:245–246`. -/
def joinScopes : Option Json → Except Thrown String
  | some (.arr items) =>
    if Json.itemsHaveText items then .ok (" ".intercalate (Json.itemTexts items))
    else .error noText
  | some (.str s) =>
    if s = "" then .ok ""
    else .error (.other "TypeError" "prm.scopes_supported.join is not a function")
  | some (.obj members) =>
    match members.lookup "length" with
    | none => .ok ""
    | some length =>
      match length.positive? with
      | none => .error noText
      | some false => .ok ""
      | some true => .error (.other "TypeError" "prm.scopes_supported.join is not a function")
  | _ => .ok ""

/-- Step 4, the scope to request: `mcp-oauth-client.ts:239–253`. -/
def selectScope (key : String) (loc : Located) : Except Thrown (String × ScopeSource) :=
  match (loc.challengeScope.map trim).filter (· ≠ "") with
  | some scope => .ok (scope, .challenge)
  | none =>
    match joinScopes (loc.prm.get? "scopes_supported") with
    | .error e => .error e
    | .ok scope =>
      if scope = "" then
        .error (.curityAuth ⟨"neither the 401 challenge nor scopes_supported at " ++ loc.prmUrl ++
          " says which scope to request for " ++ key, .scopeUnavailable⟩)
      else .ok (scope, .scopesSupported)

/-- Whether a call may be answered from the discovery cache at all. -/
def DiscoverCall.mayUseCache (call : DiscoverCall) : Bool :=
  !call.opts.force && 0 < call.opts.ttlMs.getD discoveryTtlMs

/-- The uncached part of `discoverMcpAuthorization`: `mcp-oauth-client.ts:163–278`. -/
def discoverUncached (sdk : Sdk) (net : Network) (clock : Clock) (caches : Caches)
    (call : DiscoverCall) : Caches × Except Thrown McpAuthDiscovery :=
  let key := normalizeUrl call.serverUrl
  match locate sdk net call with
  | .error e => (caches, .error e)
  | .ok loc =>
    match resolveAuthorizationServer sdk caches.metadata loc.authorizationServer call.opts.force
        (call.opts.ttlMs.getD discoveryTtlMs) net.discoverMetadata clock.metadataNow
        clock.fetchedAt with
    | (metadata, .error e) => ({ caches with metadata := metadata }, .error (.curityAuth e))
    | (metadata, .ok resolved) =>
      match selectScope key loc with
      | .error e => ({ caches with metadata := metadata }, .error e)
      | .ok (scope, scopeSource) =>
        let discovery : McpAuthDiscovery :=
          ⟨key, loc.prmUrl, loc.prm, loc.authorizationServer, resolved.metadata,
            resolved.tokenEndpoint, scope, scopeSource, clock.discoveredAt⟩
        (⟨caches.discovery.set key discovery, metadata⟩, .ok discovery)

/-- Model of `mcp-oauth-client.ts:135–279`. -/
def discoverMcpAuthorization (sdk : Sdk) (net : Network) (clock : Clock) (caches : Caches)
    (call : DiscoverCall) : Caches × Except Thrown McpAuthDiscovery :=
  let hit := (caches.discovery.get? (normalizeUrl call.serverUrl)).filter fun hit ↦
    reusable call.opts.force (call.opts.ttlMs.getD discoveryTtlMs) clock.now hit.discoveredAt
  match hit with
  | some hit => (caches, .ok hit)
  | none => discoverUncached sdk net clock caches call

/-- The options of `createMcpAuthProvider`: `mcp-oauth-client.ts:322–331`. -/
structure ProviderOpts where
  serverUrl : String
  allowedAuthorizationServers : Option (List String)
  discoveryTtlMs : Option Int

/-- `McpExchangeInput` of `mcp-oauth-client.ts:288–299`. -/
structure McpExchangeInput where
  tokenEndpoint : String
  scope : String
  discovery : McpAuthDiscovery
  forced : Bool

/-- A call of one of the entry points of a provider. -/
inductive ProviderOp where
  | discover
  | acquire
  | onUnauthorized (challenge : Challenge)

/-- The call of `discoverMcpAuthorization` that a provider makes. -/
def ProviderOpts.call (opts : ProviderOpts) (force : Bool) (challenge : Option Challenge) :
    DiscoverCall :=
  ⟨opts.serverUrl, challenge, force, opts.discoveryTtlMs, opts.allowedAuthorizationServers⟩

/-- A call of `discoverMcpAuthorization` itself, or of a provider. -/
inductive RuntimeAction where
  | discover (call : DiscoverCall)
  | provider (p : Nat) (op : ProviderOp)

/-- A call, its HTTP answers and its clock. -/
structure RuntimeEvent where
  action : RuntimeAction
  net : Network
  clock : Clock

/-- The process: its caches and what every provider has discovered. -/
structure RuntimeState where
  caches : Caches
  discovery : Nat → Option McpAuthDiscovery

/-- What a call makes happen. -/
inductive RuntimeObservation where
  | discovered (call : DiscoverCall) (result : Except Thrown McpAuthDiscovery)
  | exchange (p : Nat) (input : McpExchangeInput)
  | thrown (e : Thrown)

/-- The process around its providers. -/
structure RuntimeDeps where
  sdk : Sdk
  providers : Nat → ProviderOpts

/-- `discover` of a provider: `mcp-oauth-client.ts:335–366`. -/
def providerDiscover (deps : RuntimeDeps) (s : RuntimeState) (p : Nat) (net : Network)
    (clock : Clock) (force : Bool) (challenge : Option Challenge) :
    RuntimeState × Except Thrown McpAuthDiscovery :=
  match discoverMcpAuthorization deps.sdk net clock s.caches
      ((deps.providers p).call force challenge) with
  | (caches, .error e) => (⟨caches, s.discovery⟩, .error e)
  | (caches, .ok d) => (⟨caches, Function.update s.discovery p (some d)⟩, .ok d)

/-- The call of `opts.exchange` for a discovery: `mcp-oauth-client.ts:375`. -/
def exchangeInput (d : McpAuthDiscovery) (force : Bool) : McpExchangeInput :=
  ⟨d.tokenEndpoint, d.scope, d, force⟩

/-- `acquire` of a provider: `mcp-oauth-client.ts:368–377`. -/
def providerAcquire (deps : RuntimeDeps) (s : RuntimeState) (p : Nat) (net : Network)
    (clock : Clock) (force : Bool) (challenge : Option Challenge) :
    RuntimeState × List RuntimeObservation :=
  match (s.discovery p).filter fun _ ↦ !force && challenge.isNone with
  | some d => (s, [.exchange p (exchangeInput d force)])
  | none =>
    match providerDiscover deps s p net clock force challenge with
    | (s, .error e) =>
      (s, [.discovered ((deps.providers p).call force challenge) (.error e), .thrown e])
    | (s, .ok d) =>
      (s, [.discovered ((deps.providers p).call force challenge) (.ok d),
        .exchange p (exchangeInput d force)])

/-- One call: `discoverMcpAuthorization`, or an entry point of a provider,
`mcp-oauth-client.ts:379–397`. -/
def runtimeStep (deps : RuntimeDeps) (s : RuntimeState) (e : RuntimeEvent) :
    RuntimeState × List RuntimeObservation :=
  match e.action with
  | .discover call =>
    ({ s with caches := (discoverMcpAuthorization deps.sdk e.net e.clock s.caches call).1 },
      [.discovered call (discoverMcpAuthorization deps.sdk e.net e.clock s.caches call).2])
  | .provider p .discover =>
    ((providerDiscover deps s p e.net e.clock false none).1,
      [.discovered ((deps.providers p).call false none)
        (providerDiscover deps s p e.net e.clock false none).2])
  | .provider p .acquire => providerAcquire deps s p e.net e.clock false none
  | .provider p (.onUnauthorized challenge) =>
    if challenge.error = some "insufficient_user_authentication" then
      (s, [.thrown (.curityAuth
        ⟨"step-up required: " ++ challenge.wwwAuthenticate, .stepUpRequired⟩)])
    else providerAcquire deps s p e.net e.clock true (some challenge)

/-- The calls of one process, one after the other. -/
def runtime (deps : RuntimeDeps) : Machine RuntimeState RuntimeEvent (List RuntimeObservation) where
  init := ⟨⟨.empty, .empty⟩, fun _ ↦ none⟩
  step := runtimeStep deps

section Located

variable {sdk : Sdk} {net : Network} {call : DiscoverCall} {loc : Located}

/-- A server that passes the trust boundary is in the list. -/
theorem checkAllowed_ok {prmUrl authorizationServer : String} {allowed : Option (List String)}
    {u : Unit} (h : checkAllowed prmUrl authorizationServer allowed = .ok u) (servers : List String)
    (hallowed : allowed = some servers) :
    normalizeUrl authorizationServer ∈ servers.map normalizeUrl := by
  subst hallowed
  simp only [checkAllowed] at h
  split at h
  · next hin => exact List.contains_iff_mem.mp hin
  · cases h

/-- What an uncached discovery locates is in the list of its call. -/
theorem locate_ok (h : locate sdk net call = .ok loc) (servers : List String)
    (hallowed : call.opts.allowedAuthorizationServers = some servers) :
    normalizeUrl loc.authorizationServer ∈ servers.map normalizeUrl := by
  unfold locate at h
  obtain ⟨challenge, -, h⟩ := bind_eq_ok_iff.mp h
  obtain ⟨candidates, -, h⟩ := bind_eq_ok_iff.mp h
  obtain ⟨found, -, h⟩ := bind_eq_ok_iff.mp h
  split at h
  · next prmUrl prm =>
    obtain ⟨authorizationServer, -, h⟩ := bind_eq_ok_iff.mp h
    obtain ⟨u, hchecked, h⟩ := bind_eq_ok_iff.mp h
    cases h
    exact checkAllowed_ok hchecked servers hallowed
  · cases h

end Located
end AgentsAuth.Runtime
