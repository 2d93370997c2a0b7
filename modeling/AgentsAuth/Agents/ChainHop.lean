import AgentsAuth.Api.Middleware

/-!
# Rows of the debug chain

`ChainHop` of the `/last-token` routes. A row describes one token, decoded without
verification, and holds the token itself only when the caller asks for `?raw=1`.
-/

namespace AgentsAuth.Agents

open AgentsAuth.Api AgentsAuth.AuthCurity AgentsAuth.Base AgentsAuth.Lib

/-- The decoding of `jose`, where `none` is a thrown error, and of one JWT segment. -/
structure JwtReader where
  decodeProtectedHeader : String → Option Claims
  decodeJwt : String → Option Claims
  /-- `JSON.parse(Buffer.from(part, 'base64url').toString())`. -/
  parsePart : String → Option Claims

/-- `ChainHop`; an absent header or payload is `null`. -/
structure ChainHop where
  hop : String
  header : Option Claims
  payload : Option Claims
  token : Option String
  note : Option String

/-- `LLM_LEAF_NOTE` of both agents. -/
def llmLeafNote : String :=
  "Model call — a leaf, not a hop toward the cluster. The LLM provider sits outside the trust " ++
    "domain, so nothing exchanges this token onward."

/-- `decode` of the two agents, `apps/agent-copilot/src/last-token-route.ts:33–41`; `none` is a
thrown error. -/
def decode (reader : JwtReader) (hop token : String) (includeRaw : Bool) (note : Option String) :
    Option ChainHop := do
  let header ← reader.decodeProtectedHeader token
  let payload ← reader.decodeJwt token
  return ⟨hop, some header, some payload, if includeRaw then some token else none, note⟩

/-- `decodePart` of the two MCP servers, `apps/mcp-ops/src/last-token-route.ts:7–15`. -/
def decodePart (reader : JwtReader) (token : String) (idx : Nat) : Option Claims := do
  let part ← (piecesBy (· = '.') token)[idx]?
  if part = "" then none else reader.parsePart part

/-- The middleware of `/last-token` on agent-specialist and on the MCP servers,
`apps/agent-specialist/src/last-token-route.ts:53–79`: a response, or `next()` after a bearer
has been verified. -/
def lastTokenAuth (jose : Jose) (curityIssuer curityJwksUri expectedAudience : String)
    (authorization : Option String) : Except Response VerifiedJwt :=
  match bearerToken authorization with
  | none => .error ⟨401, none, .obj [("error", .str "invalid_token")]⟩
  | some token =>
    match verifyJwt jose token ⟨curityIssuer, expectedAudience, some curityJwksUri, none, none⟩ with
    | .error e => .error ⟨401, none, errorBody e.code.toText e.message⟩
    | .ok verified => .ok verified

/-- A decoded row carries the payload of its token. -/
theorem decode_payload {reader : JwtReader} {hop token : String} {includeRaw : Bool}
    {note : Option String} {row : ChainHop}
    (h : decode reader hop token includeRaw note = some row) :
    row.payload = reader.decodeJwt token := by
  obtain ⟨header, -, h⟩ := Option.bind_eq_some_iff.mp h
  obtain ⟨payload, hpayload, h⟩ := Option.bind_eq_some_iff.mp h
  cases h
  exact hpayload.symm

/-- A row carries its token when it is asked for raw. -/
theorem decode_token {reader : JwtReader} {hop token : String} {includeRaw : Bool}
    {note : Option String} {row : ChainHop}
    (h : decode reader hop token includeRaw note = some row) :
    row.token = if includeRaw then some token else none := by
  obtain ⟨header, -, h⟩ := Option.bind_eq_some_iff.mp h
  obtain ⟨payload, -, h⟩ := Option.bind_eq_some_iff.mp h
  cases h
  rfl

/-- It has the note that it is given. -/
theorem decode_note {reader : JwtReader} {hop token : String} {includeRaw : Bool}
    {note : Option String} {row : ChainHop}
    (h : decode reader hop token includeRaw note = some row) : row.note = note := by
  obtain ⟨header, -, h⟩ := Option.bind_eq_some_iff.mp h
  obtain ⟨payload, -, h⟩ := Option.bind_eq_some_iff.mp h
  cases h
  rfl

end AgentsAuth.Agents
