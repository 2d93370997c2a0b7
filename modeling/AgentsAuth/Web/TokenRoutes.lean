import AgentsAuth.Debug.RawTokens

/-!
# What the browser gets of tokens

The routes of the web server that tell the browser about the tokens of its session:
`apps/web/src/app/api`. Two of them hand tokens out, and both are there only where `AUTH_DEBUG` is
`true`; what agent-copilot answers to the others has no tokens in it, in any run of its walks.
-/

namespace AgentsAuth.Web

open AgentsAuth.Agents AgentsAuth.AuthCurity AgentsAuth.Base AgentsAuth.Debug AgentsAuth.Lib

/-- The user that `auth()` yields. -/
structure SessionUser where
  id : Option String
  name : Option String
  email : Option String

/-- What `getToken` reads from the session cookie. -/
structure SessionToken where
  accessToken : Option String
  tokenType : Option String
  expiresAt : Option Json
  sub : Option String

/-- A request of the browser, with what its cookie holds. -/
structure BrowserRequest where
  user : Option SessionUser
  token : Option SessionToken

/-- What a `fetch` comes to; the body is that of `json()`, where it does not throw. -/
inductive Fetched where
  | failed
  | answered (status : Nat) (body : Option Json)

/-- What a route answers; an error is thrown to Next.js. -/
inductive RouteAnswer where
  | json (status : Nat) (body : Json)
  | text (status : Nat) (text : String)
  | error

/-- The web server. -/
structure WebServer where
  agentUrl : String
  authDebug : Option String
  /-- `JSON.parse(Buffer.from(part, 'base64url').toString())`. -/
  parsePart : String → Option Json
  fetch : String → String → Fetched

/-- `{ error }`. -/
def errorJson (error : String) : Json := .obj [("error", .str error)]

/-- The gates that the routes share: a session, and an access token in it. -/
def withAccessToken (request : BrowserRequest) (noToken : RouteAnswer)
    (next : SessionToken → String → RouteAnswer) : RouteAnswer :=
  match request.user with
  | none => .json 401 (errorJson "unauthenticated")
  | some _ =>
    match request.token with
    | none => noToken
    | some token =>
      match token.accessToken.filter (· ≠ "") with
      | none => noToken
      | some accessToken => next token accessToken

namespace WebServer

variable (W : WebServer)

/-- A request for agent-copilot with the access token, and its answer for the browser. -/
def proxied (path : String) (request : BrowserRequest)
    (finish : SessionToken → Json → Option Json) : RouteAnswer :=
  withAccessToken request (.json 401 (errorJson "no_access_token")) fun token accessToken ↦
    match W.fetch (W.agentUrl ++ path) accessToken with
    | .failed => .error
    | .answered status body =>
      if 200 ≤ status ∧ status ≤ 299 then
        match body.bind (finish token) with
        | some body => .json 200 body
        | none => .error
      else if status = 401 then .json 401 (errorJson "session_expired")
      else
        .json 502 (.obj [("error", .str "upstream_error"),
          ("status", .num ⟨status, toString status⟩)])

/-- Model of `GET`, `apps/web/src/app/api/obo-chain/route.ts:7–36`. -/
def oboChain (request : BrowserRequest) : RouteAnswer :=
  W.proxied "/last-token" request fun _ body ↦ some body

/-- Model of `GET`, `apps/web/src/app/api/tokens/route.ts:18–55`. -/
def tokens (request : BrowserRequest) : RouteAnswer :=
  if W.authDebug = some "true" then
    W.proxied "/last-token?raw=1" request fun token body ↦
      (Copilot.chainOf body).map fun chain ↦
        .obj (Json.members [("sub", token.sub.map .str), ("expires_at", token.expiresAt),
          ("chain", some chain.1)])
  else .text 404 "not found"

/-- Model of `GET`, `apps/web/src/app/api/dev/token/route.ts:12–48`. -/
def devToken (request : BrowserRequest) : RouteAnswer :=
  if W.authDebug = some "true" then
    withAccessToken request (.json 500 (errorJson "no access token in session"))
      fun token accessToken ↦
        .json 200 (.obj (Json.members [("sub", token.sub.map .str),
          ("expires_at", token.expiresAt), ("access_token", some (.str accessToken)),
          ("curl_smoke_hint", some (.str
            "export SMOKE_SUBJECT_TOKEN=\"<paste access_token value>\"; make smoke"))]))
  else .text 404 "not found"

/-- Model of `safeJwtHeader`, `apps/web/src/app/api/whoami/route.ts:45–53`. -/
def safeJwtHeader (jwt : String) : Json :=
  match piecesBy (· = '.') jwt with
  | header :: _ :: _ => (W.parsePart header).getD .null
  | _ => .null

/-- Model of `safeJwtPayload`, `apps/web/src/app/api/whoami/route.ts:56–67`. -/
def safeJwtPayload (jwt : String) : Json :=
  match piecesBy (· = '.') jwt with
  | _ :: payload :: _ =>
    match W.parsePart payload with
    | some (.obj members) => .obj (members.filter (·.1 ≠ "signature"))
    | some claims => claims
    | none => .null
  | _ => .null

/-- Model of `GET`, `apps/web/src/app/api/whoami/route.ts:10–43`. -/
def whoami (request : BrowserRequest) : RouteAnswer :=
  match request.user with
  | none => .json 401 (errorJson "unauthenticated")
  | some user =>
    let accessToken := (request.token.bind SessionToken.accessToken).filter (· ≠ "")
    .json 200 (.obj (Json.members [
      ("sub", ((request.token.bind SessionToken.sub).or user.id).map .str),
      ("name", user.name.map .str), ("email", user.email.map .str),
      ("has_access_token", some (.bool accessToken.isSome)),
      ("access_token_jwt_header", some ((accessToken.map W.safeJwtHeader).getD .null)),
      ("access_token_payload_preview", some ((accessToken.map W.safeJwtPayload).getD .null)),
      ("token_type", (request.token.bind SessionToken.tokenType).map .str),
      ("expires_at", request.token.bind SessionToken.expiresAt)]))

end WebServer

/-- The routes that read the access token of the session. -/
inductive TokenRoute where
  | oboChain
  | tokens
  | devToken
  | whoami
deriving DecidableEq

/-- What a route answers. -/
def TokenRoute.get (W : WebServer) : TokenRoute → BrowserRequest → RouteAnswer
  | .oboChain => W.oboChain
  | .tokens => W.tokens
  | .devToken => W.devToken
  | .whoami => W.whoami

namespace RouteAnswer

/-- The rows of the chain in an answer. -/
def rows : RouteAnswer → List Json
  | .json _ body =>
    match body.get? "chain" with
    | some (.arr rows) => rows
    | _ => []
  | _ => []

/-- The tokens in an answer: its own, and those of its rows. -/
def rawTokens : RouteAnswer → List Json
  | .json status body =>
    (body.get? "access_token").toList ++
      (json status body).rows.filterMap fun row ↦ row.get? "token"
  | _ => []

end RouteAnswer

/-- What agent-copilot answers with `ok` is what it answers in the run to a request for that URL
with that bearer. -/
def AnsweredIn (W : WebServer) (transcript : List (WalkEvent × WalkAnswer)) : Prop :=
  ∀ url bearer status body, W.fetch url bearer = .answered status (some body) →
    200 ≤ status → status ≤ 299 →
      ∃ x ∈ transcript, ∃ r rows, x.2 = some (r, some rows) ∧ r.url = url ∧
        r.authed.bearerToken = bearer ∧ body = chainBody rows

/-- Tokens are in an answer only of the two routes for them, where `AUTH_DEBUG` is `true`. Each row
renders one token, which only the rows of `/api/tokens` show, and the first row of a chain renders
that of the session. -/
structure Discreet (W : WebServer) (reader : JwtReader) (write : Claims → Json) (route : TokenRoute)
    (request : BrowserRequest) (answer : RouteAnswer) : Prop where
  gated : answer.rawTokens ≠ [] →
    W.authDebug = some "true" ∧ (route = .tokens ∨ route = .devToken)
  rows : ∀ row ∈ answer.rows, IsRow reader write (decide (route = .tokens)) row
  own : ∀ row, answer.rows.head? = some row → ∃ token accessToken hop,
    request.token = some token ∧ token.accessToken = some accessToken ∧
      Renders reader write (decide (route = .tokens)) accessToken hop ∧ row = rowJson write hop

section Routes

variable {W : WebServer} {reader : JwtReader} {write : Claims → Json} {request : BrowserRequest}

private theorem lookup_members {fields : List (String × Option Json)} {name : String}
    (h : (fields.map Prod.fst).Nodup) :
    (Json.members fields).lookup name = (fields.lookup name).join := by
  induction fields with
  | nil => rfl
  | cons field fields ih =>
    obtain ⟨key, value⟩ := field
    obtain ⟨hkey, hrest⟩ := List.nodup_cons.mp h
    have hfields := ih hrest
    have hmembers : Json.members ((key, value) :: fields) =
        (value.map (key, ·)).toList ++ Json.members fields := by
      cases value <;> rfl
    rw [hmembers]
    by_cases hname : name = key
    · subst hname
      cases value with
      | some value => simp
      | none =>
        have hnone : fields.lookup name = none := by
          rw [List.lookup_eq_none_iff]
          intro entry hentry
          have hne : name ≠ entry.1 := by
            intro heq
            apply hkey
            show name ∈ fields.map Prod.fst
            rw [heq]
            exact List.mem_map_of_mem hentry
          simpa using hne
        simpa [hnone] using hfields
    · have hbeq : (name == key) = false := by simpa using hname
      cases value <;> simpa [List.lookup_cons, hbeq] using hfields

/-- An object without a chain has no rows. -/
theorem rows_of_members {status : Nat} {fields : List (String × Option Json)}
    (hnodup : (fields.map Prod.fst).Nodup) (h : fields.lookup "chain" = none) :
    (RouteAnswer.json status (.obj (Json.members fields))).rows = [] := by
  have hchain : (Json.obj (Json.members fields)).get? "chain" = none := by
    show (Json.members fields).lookup "chain" = none
    rw [lookup_members hnodup, h]
    rfl
  simp only [RouteAnswer.rows, hchain]

/-- One without an access token has no tokens either. -/
theorem rawTokens_of_members {status : Nat} {fields : List (String × Option Json)}
    (hnodup : (fields.map Prod.fst).Nodup) (h : fields.lookup "chain" = none)
    (htoken : fields.lookup "access_token" = none) :
    (RouteAnswer.json status (.obj (Json.members fields))).rawTokens = [] := by
  have hnone : (Json.obj (Json.members fields)).get? "access_token" = none := by
    show (Json.members fields).lookup "access_token" = none
    rw [lookup_members hnodup, htoken]
    rfl
  rw [RouteAnswer.rawTokens, hnone, rows_of_members hnodup h]
  rfl

/-- A gated answer is that of the gate, or what follows it. -/
theorem withAccessToken_cases {noToken : RouteAnswer}
    {next : SessionToken → String → RouteAnswer} :
    withAccessToken request noToken next = .json 401 (errorJson "unauthenticated") ∨
      withAccessToken request noToken next = noToken ∨
        ∃ token accessToken, request.token = some token ∧ token.accessToken = some accessToken ∧
          withAccessToken request noToken next = next token accessToken := by
  unfold withAccessToken
  split
  · exact Or.inl rfl
  · split
    · exact Or.inr (Or.inl rfl)
    · next token htoken =>
      split
      · exact Or.inr (Or.inl rfl)
      · next accessToken haccess =>
        exact Or.inr (Or.inr ⟨token, accessToken, htoken,
          (Option.filter_eq_some_iff.mp haccess).1, rfl⟩)

/-- An answer without a chain and without an access token tells nothing. -/
theorem discreet_of_plain {route : TokenRoute} {answer : RouteAnswer} (hrows : answer.rows = [])
    (hraw : answer.rawTokens = []) : Discreet W reader write route request answer where
  gated := fun h ↦ absurd hraw h
  rows := by
    intro row hrow
    rw [hrows] at hrow
    cases hrow
  own := by
    intro row hrow
    rw [hrows] at hrow
    cases hrow

/-- A chain whose rows are shown in the mode of the route is discreet. -/
theorem discreet_of_shows {route : TokenRoute} {r : WalkRequest} {rows : List Json} {body : Json}
    {token : SessionToken} (hshows : Debug.Shows reader write r rows)
    (hmode : r.includeRaw = decide (route = .tokens))
    (hdebug : route = .tokens → W.authDebug = some "true")
    (htoken : request.token = some token)
    (haccess : token.accessToken = some r.authed.bearerToken)
    (hchain : body.get? "chain" = some (.arr rows)) (hnone : body.get? "access_token" = none) :
    Discreet W reader write route request (.json 200 body) := by
  have hrows : (RouteAnswer.json 200 body).rows = rows := by
    simp only [RouteAnswer.rows, hchain]
  have htold : ∀ row ∈ rows, IsRow reader write (decide (route = .tokens)) row := by
    rw [← hmode]
    exact hshows.rows
  constructor
  · intro hraw
    obtain ⟨raw, hmem⟩ := List.exists_mem_of_ne_nil _ hraw
    rw [RouteAnswer.rawTokens, hnone, hrows] at hmem
    obtain ⟨row, hrow, hget⟩ := List.mem_filterMap.mp hmem
    have hsome := isSome_token_of_isRow (htold row hrow)
    rw [hget] at hsome
    have hroute : route = .tokens := of_decide_eq_true hsome.symm
    exact ⟨hdebug hroute, Or.inl hroute⟩
  · rw [hrows]
    exact htold
  · intro row hhead
    obtain ⟨hop, hrenders, hfirst⟩ := hshows.inbound
    rw [hrows, hfirst, Option.some.injEq] at hhead
    rw [hmode] at hrenders
    exact ⟨token, _, hop, htoken, haccess, hrenders, hhead.symm⟩

/-- What is passed on is the JSON of an answer with `ok`. -/
theorem proxied_cases {path : String} {finish : SessionToken → Json → Option Json} :
    ((W.proxied path request finish).rows = [] ∧ (W.proxied path request finish).rawTokens = []) ∨
      ∃ token accessToken status body passed, request.token = some token ∧
        token.accessToken = some accessToken ∧
        W.fetch (W.agentUrl ++ path) accessToken = .answered status (some body) ∧
        (200 ≤ status ∧ status ≤ 299) ∧ finish token body = some passed ∧
        W.proxied path request finish = .json 200 passed := by
  unfold WebServer.proxied
  rcases withAccessToken_cases with h | h | ⟨token, access, htoken, haccess, h⟩
  · exact Or.inl (by rw [h]; exact ⟨rfl, rfl⟩)
  · exact Or.inl (by rw [h]; exact ⟨rfl, rfl⟩)
  · rw [h]
    split
    · exact Or.inl ⟨rfl, rfl⟩
    · next status body hfetch =>
      split
      · next hok =>
        split
        · next passed hpassed =>
          obtain ⟨body, rfl, hfinish⟩ := Option.bind_eq_some_iff.mp hpassed
          exact Or.inr ⟨token, access, status, body, passed, htoken, haccess, hfetch, hok, hfinish,
            rfl⟩
        · exact Or.inl ⟨rfl, rfl⟩
      · split
        · exact Or.inl ⟨rfl, rfl⟩
        · exact Or.inl ⟨rfl, rfl⟩

/-- So what is passed on is discreet when it is the chain of agent-copilot in the mode of the route,
and nothing else of tokens. -/
theorem discreet_proxied {route : TokenRoute} {path : String}
    {finish : SessionToken → Json → Option Json}
    (hdebug : route = .tokens → W.authDebug = some "true")
    (hanswers : ∀ accessToken status body,
      W.fetch (W.agentUrl ++ path) accessToken = .answered status (some body) →
        200 ≤ status ∧ status ≤ 299 →
          ∃ r rows, body = chainBody rows ∧ Debug.Shows reader write r rows ∧
            r.includeRaw = decide (route = .tokens) ∧ r.authed.bearerToken = accessToken)
    (hfinish : ∀ token rows passed, finish token (chainBody rows) = some passed →
      passed.get? "chain" = some (.arr rows) ∧ passed.get? "access_token" = none) :
    Discreet W reader write route request (W.proxied path request finish) := by
  rcases @proxied_cases W request path finish with
    ⟨hrows, hraw⟩ | ⟨token, accessToken, status, body, passed, htoken, haccess, hanswer, hok,
      hpassed, hget⟩
  · exact discreet_of_plain hrows hraw
  · obtain ⟨r, rows, rfl, hshows, hmode, rfl⟩ := hanswers accessToken status body hanswer hok
    obtain ⟨hchain, hnone⟩ := hfinish token rows passed hpassed
    rw [hget]
    exact discreet_of_shows hshows hmode hdebug htoken haccess hchain hnone

/-- The access token is handed out where `AUTH_DEBUG` is `true`. -/
theorem discreet_devToken : Discreet W reader write .devToken request (W.devToken request) := by
  rw [WebServer.devToken]
  split
  · next hdebug =>
    rcases withAccessToken_cases with h | h | ⟨token, accessToken, -, -, h⟩
    · rw [h]
      exact discreet_of_plain rfl rfl
    · rw [h]
      exact discreet_of_plain rfl rfl
    · rw [h]
      refine ⟨fun _ ↦ ⟨hdebug, Or.inr rfl⟩, ?_, ?_⟩
      · rw [rows_of_members (by simp) rfl]
        simp
      · rw [rows_of_members (by simp) rfl]
        simp
  · exact discreet_of_plain rfl rfl

/-- What is told of it everywhere has neither the token nor a chain. -/
theorem discreet_whoami : Discreet W reader write .whoami request (W.whoami request) := by
  rw [WebServer.whoami]
  split
  · exact discreet_of_plain rfl rfl
  · apply discreet_of_plain
    · exact rows_of_members (by simp) rfl
    · exact rawTokens_of_members (by simp) rfl rfl

end Routes

section Runs

variable {cfg : Copilot.Config} {reader : JwtReader} {write : Claims → Json} {maxSnapshots : Nat}
  {es : List WalkEvent}

/-- In every run of the walks of agent-copilot, with its requests, responses and bodies in any
order, a request is answered with rows that each render one token, and show it exactly when the
request asks for it, the first of them its bearer; and what the browser gets of tokens is
discreet. -/
theorem raw_tokens_gated (hinspect : IsServiceUrl cfg.mcpInspectUrl)
    (hspecialist : IsServiceUrl cfg.specialistA2aUrl)
    (hserved : (walking cfg reader write maxSnapshots).Along (ServedAt reader write) es) :
    (∀ x ∈ (walking cfg reader write maxSnapshots).transcript es, ∀ r answer,
      x.2 = some (r, answer) → Settled reader write r answer) ∧
    ∀ W : WebServer, IsServiceUrl W.agentUrl →
      AnsweredIn W ((walking cfg reader write maxSnapshots).transcript es) →
        ∀ (route : TokenRoute) (request : BrowserRequest),
          Discreet W reader write route request (route.get W request) := by
  have hsettled := @settled_of_served cfg reader write maxSnapshots es hinspect hspecialist hserved
  refine ⟨hsettled, ?_⟩
  intro W hagent hfetch route request
  have hshows : ∀ includeRaw accessToken status body,
      W.fetch (fetchUrl (W.agentUrl ++ "/last-token") includeRaw) accessToken =
          .answered status (some body) → 200 ≤ status ∧ status ≤ 299 →
        ∃ r rows, body = chainBody rows ∧ Debug.Shows reader write r rows ∧
          r.includeRaw = includeRaw ∧ r.authed.bearerToken = accessToken := by
    intro includeRaw accessToken status body hanswer hok
    obtain ⟨x, hx, r, rows, hsome, hurl, hbearer, hbody⟩ :=
      hfetch _ _ _ _ hanswer hok.1 hok.2
    refine ⟨r, rows, hbody, hsettled x hx r _ hsome, ?_, hbearer⟩
    rw [WalkRequest.includeRaw, hurl]
    exact rawAsked_fetchUrl (hagent.append isServiceUrl_lastToken) includeRaw
  cases route with
  | oboChain =>
    apply discreet_proxied (fun h ↦ by cases h) (hshows false)
    intro token rows passed hpassed
    cases hpassed
    exact ⟨rfl, rfl⟩
  | tokens =>
    show Discreet W reader write .tokens request (W.tokens request)
    rw [WebServer.tokens]
    split
    · next hdebug =>
      have hurl : W.agentUrl ++ "/last-token?raw=1" =
          fetchUrl (W.agentUrl ++ "/last-token") true := by
        rw [fetchUrl, if_pos rfl, String.append_assoc]
        rfl
      apply discreet_proxied (fun _ ↦ hdebug)
      · rw [hurl]
        exact hshows true
      · intro token rows passed hpassed
        rw [chainOf_chainBody] at hpassed
        cases hpassed
        exact ⟨lookup_members (by simp), lookup_members (by simp)⟩
    · exact discreet_of_plain rfl rfl
  | devToken => exact discreet_devToken
  | whoami => exact discreet_whoami

end Runs

section Sample

private def sampleReader : JwtReader := ⟨fun _ ↦ some fun _ ↦ none, fun _ ↦ some fun _ ↦ none,
  fun _ ↦ none⟩

private def sampleWrite : Claims → Json := fun _ ↦ .obj []

private def sampleClaims : Claims
  | "sub" => some (.str "alice")
  | "jti" => some (.str "j0")
  | _ => none

/-- A request of Alice's after a read flow. -/
private def sampleWalk (includeRaw : Bool) : WalkRequest where
  url := fetchUrl "http://agent-copilot/last-token" includeRaw
  authed := ⟨⟨sampleClaims, []⟩, "e30.login.sig"⟩
  last := fun helper ↦
    if helper = .inspect then some ⟨"alice", "e30.gateway.sig", 0, some "j0"⟩ else none

private def sampleMcpRows (includeRaw : Bool) : List Json :=
  (Mcp.inspectBuildChain sampleReader (some ⟨"e30.inspect.sig", "e30.api.sig", 0⟩)
    includeRaw).map (rowJson sampleWrite)

/-- One walk with the tokens and one without, both to their ends. -/
private def sampleEvents : List WalkEvent :=
  [.request (sampleWalk true), .request (sampleWalk false), .response 1 (some true),
    .response 0 (some true), .body 0 (some (chainBody (sampleMcpRows true))),
    .body 1 (some (chainBody (sampleMcpRows false)))]

private def sampleWalking : Machine WalkState WalkEvent WalkAnswer :=
  walking Copilot.sampleConfig sampleReader sampleWrite 8

private def sampleRow (includeRaw : Bool) (hop token : String) : Json :=
  rowJson sampleWrite ⟨hop, some fun _ ↦ none, some fun _ ↦ none,
    if includeRaw then some token else none, none⟩

private def sampleOwnRows (includeRaw : Bool) : List Json :=
  [sampleRow includeRaw "user → agent-copilot (inbound)" "e30.login.sig",
    sampleRow includeRaw "agent-copilot → agentgateway (/inspect/mcp)" "e30.gateway.sig"]

private def sampleRows (includeRaw : Bool) : List Json :=
  sampleOwnRows includeRaw ++ sampleMcpRows includeRaw

private theorem sampleWalk_includeRaw (includeRaw : Bool) :
    (sampleWalk includeRaw).includeRaw = includeRaw :=
  rawAsked_fetchUrl (isServiceUrl_of_all (by decide)) includeRaw

private def sampleWeb : WebServer where
  agentUrl := "http://agent-copilot"
  authDebug := some "true"
  parsePart := fun _ ↦ none
  fetch := fun url bearer ↦
    if url = (sampleWalk true).url ∧ bearer = "e30.login.sig" then
      .answered 200 (some (chainBody (sampleRows true)))
    else if url = (sampleWalk false).url ∧ bearer = "e30.login.sig" then
      .answered 200 (some (chainBody (sampleRows false)))
    else .failed

private def sampleBrowser : BrowserRequest :=
  ⟨some ⟨none, none, none⟩, some ⟨some "e30.login.sig", none, none, none⟩⟩

private theorem sample_answers (includeRaw : Bool) :
    ∃ e, (e, some (sampleWalk includeRaw, some (sampleRows includeRaw))) ∈
      sampleWalking.transcript sampleEvents := by
  have htrue : (.body 0 (some (chainBody (sampleMcpRows true))), some (sampleWalk true,
      some (sampleOwnRows (sampleWalk true).includeRaw ++ sampleMcpRows true))) ∈
        sampleWalking.transcript sampleEvents :=
    List.mem_of_getElem? (i := 4) rfl
  have hfalse : (.body 1 (some (chainBody (sampleMcpRows false))), some (sampleWalk false,
      some (sampleOwnRows (sampleWalk false).includeRaw ++ sampleMcpRows false))) ∈
        sampleWalking.transcript sampleEvents :=
    List.mem_of_getElem? (i := 5) rfl
  rw [sampleWalk_includeRaw] at htrue hfalse
  cases includeRaw with
  | false => exact ⟨_, hfalse⟩
  | true => exact ⟨_, htrue⟩

/-- The call of a walk. -/
private def sampleCall (includeRaw : Bool) : Copilot.ChainCall :=
  ⟨Copilot.lastTokenUrl Copilot.sampleConfig.mcpInspectUrl "mcp", "e30.gateway.sig",
    (sampleWalk includeRaw).includeRaw⟩

private theorem sample_served {es : List WalkEvent} {i : Nat} (includeRaw : Bool)
    (hcall : ((sampleWalking.run es).fetcher.calls.map Prod.fst)[i]? =
      some (sampleCall includeRaw)) :
    ServedAt sampleReader sampleWrite (sampleWalking.run es)
      (.body i (some (chainBody (sampleMcpRows includeRaw)))) := by
  intro c hc
  rw [hcall, Option.some.injEq] at hc
  have hservice : IsServiceUrl (Copilot.lastTokenUrl Copilot.sampleConfig.mcpInspectUrl "mcp") :=
    isServiceUrl_lastTokenUrl (isServiceUrl_of_all (by decide)) "mcp"
  rw [← hc, sampleCall, rawAsked_fetchUrl hservice, sampleWalk_includeRaw]
  exact .mcpInspect _ includeRaw

private theorem sample_along : sampleWalking.Along (ServedAt sampleReader sampleWrite)
    sampleEvents := by
  have hstep : ∀ es e, sampleWalking.Along (ServedAt sampleReader sampleWrite) es →
      ServedAt sampleReader sampleWrite (sampleWalking.run es) e →
        sampleWalking.Along (ServedAt sampleReader sampleWrite) (es ++ [e]) :=
    fun es e hes he ↦ sampleWalking.along_concat.mpr ⟨hes, he⟩
  have h₁ := hstep [] (.request (sampleWalk true)) (Machine.along_nil _ _) trivial
  have h₂ := hstep _ (.request (sampleWalk false)) h₁ trivial
  have h₃ := hstep _ (.response 1 (some true)) h₂ trivial
  have h₄ := hstep _ (.response 0 (some true)) h₃ trivial
  have h₅ := hstep _ (.body 0 _) h₄ (sample_served true rfl)
  exact hstep _ (.body 1 _) h₅ (sample_served false rfl)

private theorem sample_fetch : AnsweredIn sampleWeb (sampleWalking.transcript sampleEvents) := by
  intro url bearer status body hanswer _ _
  simp only [sampleWeb] at hanswer
  split at hanswer
  · next h =>
    cases hanswer
    obtain ⟨e, he⟩ := sample_answers true
    exact ⟨_, he, _, _, rfl, h.1.symm, h.2.symm, rfl⟩
  · split at hanswer
    · next h =>
      cases hanswer
      obtain ⟨e, he⟩ := sample_answers false
      exact ⟨_, he, _, _, rfl, h.1.symm, h.2.symm, rfl⟩
    · cases hanswer

/-- Of two walks in flight at once the one for `/api/tokens` is answered with the tokens, and the
one for `/api/obo-chain` without. -/
theorem raw_tokens_gated_sample :
    (∀ includeRaw, Settled sampleReader sampleWrite (sampleWalk includeRaw)
      (some (sampleRows includeRaw))) ∧
    (Discreet sampleWeb sampleReader sampleWrite .tokens sampleBrowser
        (TokenRoute.tokens.get sampleWeb sampleBrowser) ∧
      (TokenRoute.tokens.get sampleWeb sampleBrowser).rows = sampleRows true) ∧
    Discreet sampleWeb sampleReader sampleWrite .oboChain sampleBrowser
        (TokenRoute.oboChain.get sampleWeb sampleBrowser) ∧
      (TokenRoute.oboChain.get sampleWeb sampleBrowser).rows = sampleRows false := by
  obtain ⟨hsettled, hdiscreet⟩ := @raw_tokens_gated Copilot.sampleConfig sampleReader sampleWrite 8
    sampleEvents (isServiceUrl_of_all (by decide)) (isServiceUrl_of_all (by decide)) sample_along
  have hroutes := hdiscreet sampleWeb (isServiceUrl_of_all (by decide)) sample_fetch
  refine ⟨?_, ⟨hroutes .tokens sampleBrowser, rfl⟩, hroutes .oboChain sampleBrowser, rfl⟩
  intro includeRaw
  obtain ⟨e, he⟩ := sample_answers includeRaw
  exact hsettled _ he _ _ rfl

end Sample
end AgentsAuth.Web
