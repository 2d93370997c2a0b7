import AgentsAuth.Base.Json
import AgentsAuth.Otel.WireLog

/-!
# What the wire log writes

The helpers of `formatWireLog` in `packages/otel-bootstrap/src/wire-log.ts`: headlines, decoded
tokens, and bodies. Where one throws, the whole block is lost, so each gives `none` where it does:
`String` of an object that has hidden `toString`, and `toISOString` of a time that no `Date` has.
-/

namespace AgentsAuth.Otel

open AgentsAuth.Base AgentsAuth.Lib AgentsAuth.Lib.Regex

/-- The functions of the engine whose results the wire log writes out. -/
structure Host where
  /-- `JSON.parse(s)`; `none` where it throws. -/
  parseJson : String → Option Json
  /-- `JSON.stringify(v)`. -/
  stringify : Json → String
  /-- `JSON.stringify(v, null, 2)`. -/
  stringifyIndented : Json → String
  /-- `pathname` and `search` of `new URL(s)`; `none` where it throws. -/
  parseUrl : String → Option (String × String)
  /-- The entries of `new URLSearchParams(s)`. -/
  searchParams : String → List (String × String)
  /-- `Buffer.from(s, 'base64url').toString()`. -/
  fromBase64url : String → String
  /-- `Date.parse(s) / 1000`; `none` for `NaN`. -/
  parseDate : String → Option ℚ
  /-- `new Date(sec * 1000).toISOString().slice(11, 19)` where it does not throw. -/
  timeOfDay : ℚ → String
  /-- `Math.round(a - b)`. -/
  roundedDifference : ℚ → ℚ → Int
  /-- `createHash('sha256').update(s).digest('base64url')`. -/
  sha256 : String → String

/-- `KEY_CLAIMS` of `wire-log.ts:60`. -/
def keyClaims : List String :=
  ["sub", "aud", "scope", "acr", "roles", "client_id", "act", "may_act", "cnf", "iss"]

/-- `TIME_CLAIMS` of `wire-log.ts:61`. -/
def timeClaims : List String := ["exp", "iat", "nbf"]

/-- `AS_METADATA_FIELDS` of `wire-log.ts:64–72`. -/
def asMetadataFields : List String :=
  ["issuer", "token_endpoint", "jwks_uri", "grant_types_supported",
    "token_endpoint_auth_methods_supported", "client_id_metadata_document_supported",
    "dpop_signing_alg_values_supported"]

/-- `SYSTEM_PROMPT_LINES` of `wire-log.ts:74`. -/
def systemPromptLines : Nat := 4

/-- `TOOL_RESULT_CHARS` of `wire-log.ts:75`. -/
def toolResultChars : Nat := 300

section Text

/-- `s.length`. -/
def codeLength (s : String) : Nat := (codeUnits s).length

/-- The characters of the first code units; half of a pair is written as the replacement
character. -/
def takeUnits : Nat → List Char → List Char
  | 0, _ => []
  | _ + 1, [] => []
  | 1, c :: _ => if c.toNat < 0x10000 then [c] else [Char.ofNat 0xFFFD]
  | n + 2, c :: cs => c :: takeUnits (if c.toNat < 0x10000 then n + 1 else n) cs
termination_by structural _ cs => cs

/-- `s.slice(0, n)`. -/
def sliceTo (n : Nat) (s : String) : String := String.ofList (takeUnits n s.toList)

/-- `s.split('\n')`. -/
def splitLines (s : String) : List String := piecesBy (· = '\n') s

/-- `s.replace(/\s+/g, ' ')`. -/
def collapseSpace (s : String) : String :=
  String.ofList ((pieces (.many isSpace 1 none) s).map fun
    | .char c => c
    | .hit _ => ' ')

/-- `clip` of `wire-log.ts:478–480`. -/
def clip (s : String) (n : Nat) : String :=
  if n < codeLength s then sliceTo n s ++ "… (" ++ toString (codeLength s) ++ " chars)" else s

/-- `k.padEnd(width)`. -/
def padEnd (k : String) (width : Nat) : String :=
  k ++ String.ofList (List.replicate (width - codeLength k) ' ')

/-- `aligned` of `wire-log.ts:456–459`. -/
def aligned (rows : List (String × String)) : List String :=
  let width := (rows.map fun row ↦ codeLength row.1).foldl max 0
  rows.map fun row ↦ padEnd row.1 width ++ "  " ++ row.2

/-- `prettyJson` of `wire-log.ts:461–463`. -/
def prettyJson (host : Host) (v : Json) : List String := splitLines (host.stringifyIndented v)

/-- `s.startsWith(start)`. -/
def startsWith (s start : String) : Bool := start.toList.isPrefixOf s.toList

/-- `s.endsWith(tail)`. -/
def endsWith (s tail : String) : Bool := tail.toList.isSuffixOf s.toList

end Text

section Values

/-- `Object.keys(v)`. -/
def objectKeys : Json → List String
  | .obj members => (objectEntries members).map Prod.fst
  | _ => []

/-- `isObj(v) ? v : {}`. -/
def orEmpty : Option Json → Json
  | some (.obj members) => .obj members
  | _ => .obj []

/-- The items of `v` where `Array.isArray(v)`. -/
def items? : Option Json → Option (List Json)
  | some (.arr items) => some items
  | _ => none

/-- `Array.isArray(v) ? v : []`. -/
def itemsOf (v : Option Json) : List Json := (items? v).getD []

/-- `typeof v !== 'object'`. -/
def isPrimitive : Json → Bool
  | .bool _ => true
  | .num _ => true
  | .str _ => true
  | _ => false

/-- `String(v)` of a member that may be missing. -/
def textOf : Option Json → Option String
  | none => some "undefined"
  | some v => v.text?

/-- The members with these names that are there. -/
def membersNamed (names : List String) (v : Json) : List (String × Json) :=
  names.filterMap fun name ↦ (v.get? name).map (name, ·)

/-- `isObj(v) && v.name != null`. -/
def given? (v : Json) (name : String) : Option Json := (v.get? name).filter Json.notNull

end Values

section Tokens

/-- The seconds that a `Date` has: 8.64e12 is the last double whose milliseconds are a time value,
and the numbers up to half a unit in the last place from it are read as it. -/
def isTime (sec : ℚ) : Bool := |sec| ≤ 8640000000000 + 1 / 2048

/-- Model of `clock`, `wire-log.ts:310–315`. -/
def clock (host : Host) (sec : ℚ) (sentAt : String) : Option String :=
  if isTime sec then
    let t := host.timeOfDay sec ++ "Z"
    match host.parseDate sentAt with
    | none => some t
    | some atSec =>
      let d := host.roundedDifference sec atSec
      some (t ++ " (" ++
        (if 0 ≤ d then "in " ++ toString d ++ "s" else toString (-d) ++ "s ago") ++ ")")
  else none

/-- Model of `shortSpiffe`, `wire-log.ts:305–307`: what follows the last slash, where `sa` stands
between it and the one before. -/
def shortSpiffe (s : String) : String :=
  match (piecesBy (· = '/') s).reverse with
  | last :: sa :: _ :: _ => if sa = "sa" ∧ last ≠ "" then last else s
  | _ => s

/-- The values that `flattenAct` goes through, the newest first. -/
def actSubjects : Nat → Json → List Json
  | 0, _ => []
  | guard + 1, cur =>
    (given? cur "sub").toList ++ (cur.get? "act").elim [] (actSubjects guard)

/-- Model of `flattenAct`, `wire-log.ts:297–303`. -/
def flattenAct (act : Json) : Option (Option String) :=
  ((actSubjects 16 act).mapM Json.text?).map fun chain ↦
    if chain = [] then none else some (" ▸ ".intercalate (chain.map shortSpiffe).reverse)

/-- Model of `claimValue`, `wire-log.ts:288–294`. -/
def claimValue (host : Host) (k : String) (v : Json) : Option String :=
  if k = "act" then (flattenAct v).map fun chain ↦ chain.getD (host.stringify v)
  else
    match if k = "may_act" then given? v "sub" else none with
    | some sub => sub.text?.map shortSpiffe
    | none =>
      match if k = "cnf" then given? v "jkt" else none with
      | some jkt => jkt.text?.map ("jkt=" ++ ·)
      | none =>
        match v with
        | .arr items => (items.mapM Json.text?).map (", ".intercalate ·)
        | .obj _ => some (host.stringify v)
        | _ => v.text?

/-- Claims with their values. -/
def claimValues (host : Host) (claims : List (String × Json)) : Option (List (String × String)) :=
  claims.mapM fun claim ↦ (claimValue host claim.1 claim.2).map (claim.1, ·)

/-- Claims that are numbers. -/
def timesNamed (names : List String) (p : Json) : List (String × ℚ) :=
  names.filterMap fun name ↦
    match p.get? name with
    | some (.num n) => some (name, n.value)
    | _ => none

/-- Times with their text. -/
def clocks (host : Host) (sentAt : String) (times : List (String × ℚ)) :
    Option (List (String × String)) :=
  times.mapM fun time ↦ (clock host time.2 sentAt).map (time.1, ·)

/-- Model of `claimRows`, `wire-log.ts:269–276`. -/
def claimRows (host : Host) (p : Json) (sentAt : String) : Option (List (String × String)) := do
  let keys ← claimValues host (membersNamed keyClaims p)
  let times ← clocks host sentAt (timesNamed timeClaims p)
  let other := (objectKeys p).filter fun k ↦ !keyClaims.contains k && !timeClaims.contains k
  return keys ++ times ++ if other = [] then [] else [("other", ", ".intercalate other)]

/-- Model of `thumbprint`, `wire-log.ts:318–324`. -/
def thumbprint (host : Host) (jwk : Json) : Option String :=
  let kty := Json.string? (jwk.get? "kty")
  let required :=
    if kty = some "EC" then some ["crv", "kty", "x", "y"]
    else if kty = some "RSA" then some ["e", "kty", "n"]
    else if kty = some "OKP" then some ["crv", "kty", "x"]
    else none
  required.map fun names ↦
    host.sha256 (host.stringify (.obj (Json.members (names.map fun k ↦ (k, jwk.get? k)))))

/-- Members with the texts of their values. -/
def memberTexts (members : List (String × Json)) : Option (List (String × String)) :=
  members.mapM fun member ↦ member.2.text?.map (member.1, ·)

/-- Model of `proofRows`, `wire-log.ts:279–286`. -/
def proofRows (host : Host) (h p : Json) (sentAt : String) : Option (List (String × String)) := do
  let texts ← memberTexts (membersNamed ["htm", "htu", "nonce", "ath", "jti"] p)
  let iat ← clocks host sentAt (timesNamed ["iat"] p)
  let alg ← textOf (h.get? "alg")
  let jkt :=
    match h.get? "jwk" with
    | some (.obj jwk) => present (thumbprint host (.obj jwk))
    | _ => none
  return texts ++ iat ++
    [("key", (jkt.map ("jkt=" ++ ·)).getD "jwk" ++ " (" ++ alg ++ ")")]

/-- Header and payload of a token. -/
structure DecodedJwt where
  header : Json
  payload : Json

/-- Model of `decodeJwt`, `wire-log.ts:242–251`; it catches what it throws. -/
def decodeJwt (host : Host) (jwt : String) : Option DecodedJwt :=
  match piecesBy (· = '.') jwt with
  | h :: p :: _ =>
    match host.parseJson (host.fromBase64url h), host.parseJson (host.fromBase64url p) with
    | some (.obj header), some (.obj payload) => some ⟨.obj header, .obj payload⟩
    | _, _ => none
  | _ => none

/-- `isProof` of `wire-log.ts:260`. -/
def DecodedJwt.isProof (d : DecodedJwt) : Bool :=
  Json.string? (d.header.get? "typ") = some "dpop+jwt"

/-- Model of `jwtLines`, `wire-log.ts:257–267`. -/
def jwtLines (host : Host) (mode : WireMode) (jwt sentAt : String) : Option (List String) :=
  match decodeJwt host jwt with
  | none => some []
  | some d =>
    match mode with
    | .full =>
      some ["│     ⇢ " ++ (if d.isProof then host.stringify d.header ++ " " else "") ++
        host.stringify d.payload]
    | .pretty =>
      (if d.isProof then proofRows host d.header d.payload sentAt
        else claimRows host d.payload sentAt).map fun rows ↦ (aligned rows).map ("│     " ++ ·)

end Tokens

section Bodies

/-- The text of an absent or present member after `??`. -/
def textOrEmpty (v : Option Json) : Option String :=
  match v.filter Json.notNull with
  | none => some ""
  | some v => v.text?

/-- Model of `toolCalls`, `wire-log.ts:434–440`. -/
def toolCalls (calls : Option Json) : Option (List String) :=
  (itemsOf calls).mapM fun c ↦ do
    let fn := orEmpty (c.get? "function")
    let name ← textOf (fn.get? "name")
    let arguments ← textOrEmpty (fn.get? "arguments")
    return "  → tool_call " ++ name ++ " " ++ arguments

/-- One part of `messageText`. -/
def partText (p : Json) : Option String :=
  match p with
  | .obj _ =>
    match Json.string? (p.get? "text") with
    | some text => some text
    | none => (textOf (p.get? "type")).map fun type ↦ "[" ++ type ++ "]"
  | _ => some "[?]"

/-- Model of `messageText`, `wire-log.ts:442–446`. -/
def messageText (content : Option Json) : Option String :=
  match content with
  | some (.str text) => some text
  | some (.arr parts) => (parts.mapM partText).map ("\n".intercalate ·)
  | _ => some ""

/-- Model of `compactToolResult`, `wire-log.ts:449–452`. -/
def compactToolResult (host : Host) (text : String) : String :=
  match host.parseJson text with
  | some v => clip (host.stringify v) toolResultChars
  | none => clip (collapseSpace text) toolResultChars

/-- `text ? text.split('\n') : []`. -/
def textLines (text : String) : List String := if text = "" then [] else splitLines text

/-- Model of `asMetadata`, `wire-log.ts:372–377`. -/
def asMetadata (host : Host) (v : Json) : Option (List String) :=
  let shown := membersNamed asMetadataFields v
  (claimValues host shown).map fun rows ↦
    let more := (objectKeys v).length - shown.length
    if 0 < more then
      aligned rows ++ ["… " ++ toString more ++ " more fields (HTTP_WIRE_LOG=full shows them)"]
    else aligned rows

/-- One tool of `llmRequest`. -/
def toolName (t : Json) : Option String :=
  match t.get? "function" with
  | some (.obj members) => textOf ((Json.obj members).get? "name")
  | _ => some "?"

/-- One message of `llmRequest`: `wire-log.ts:390–398`. -/
def messageLines (host : Host) (m : Json) : Option (List String) :=
  match m with
  | .obj _ => do
    let role ← textOf (m.get? "role")
    let text ← messageText (m.get? "content")
    let isRole (name : String) : Bool := Json.string? (m.get? "role") = some name
    let body := textLines (if isRole "tool" then compactToolResult host text else text)
    let shown :=
      if isRole "system" && systemPromptLines < body.length then
        body.take systemPromptLines ++
          ["… (" ++ toString (body.length - systemPromptLines) ++ " more lines)"]
      else body
    let calls ← toolCalls (m.get? "tool_calls")
    return ("── " ++ role) :: shown.map ("  " ++ ·) ++ calls
  | _ => some []

/-- `options` of `wire-log.ts:383`. -/
def requestOptions (v : Json) : List (String × Json) :=
  (membersNamed (objectKeys v) v).filter fun option ↦
    !(["model", "messages", "tools"].contains option.1) && isPrimitive option.2

/-- Model of `llmRequest`, `wire-log.ts:379–401`. -/
def llmRequest (host : Host) (v : Json) (messages : List Json) : Option (List String) := do
  let tools ← (itemsOf (v.get? "tools")).mapM toolName
  let model ← textOf (v.get? "model")
  let options ← memberTexts (requestOptions v)
  let lines ← messages.mapM (messageLines host)
  return aligned (("model", model) ::
    (if tools = [] then [] else [("tools", ", ".intercalate tools)]) ++ options) ++ lines.flatten

/-- Model of `llmResponse`, `wire-log.ts:403–415`. -/
def llmResponse (v : Json) (choices : List Json) : Option (List String) := do
  let choice := orEmpty choices.head?
  let usage := orEmpty (v.get? "usage")
  let message := orEmpty (choice.get? "message")
  let model ← textOf (v.get? "model")
  let finish ← textOf (choice.get? "finish_reason")
  let prompt ← textOf (usage.get? "prompt_tokens")
  let completion ← textOf (usage.get? "completion_tokens")
  let text ← messageText (message.get? "content")
  let calls ← toolCalls (message.get? "tool_calls")
  return aligned [("model", model), ("finish", finish),
      ("usage", prompt ++ " prompt → " ++ completion ++ " completion tokens")] ++
    "── assistant" :: (textLines text).map ("  " ++ ·) ++ calls

/-- One item of the content of `jsonRpc`. -/
def contentLines (host : Host) (i : Nat) (item : Json) : List String :=
  match Json.string? (item.get? "text") with
  | some text =>
    ("content[" ++ toString i ++ "] text:") ::
      (match host.parseJson text with
        | some inner => prettyJson host inner
        | none => splitLines text).map ("  " ++ ·)
  | none => ["content[" ++ toString i ++ "]: " ++ host.stringify item]

/-- Model of `jsonRpc`, `wire-log.ts:418–432`. -/
def jsonRpc (host : Host) (members : List (String × Json)) : List String :=
  let v := Json.obj members
  match v.get? "result" with
  | some (.obj result) =>
    match items? ((Json.obj result).get? "content") with
    | some content =>
      let rest := Json.obj (result.filter fun member ↦ member.1 ≠ "content")
      prettyJson host (.obj (members.map fun member ↦
        if member.1 = "result" then ("result", rest) else member)) ++
      content.zipIdx.flatMap fun item ↦ contentLines host item.2 item.1
    | none => prettyJson host v
  | _ => prettyJson host v

/-- `/\/\.well-known\/(oauth-authorization-server|openid-configuration)/.test(s)`. -/
def isAsMetadataPath (s : String) : Bool :=
  includes s "/.well-known/oauth-authorization-server" ||
    includes s "/.well-known/openid-configuration"

/-- Model of `summarizeJson`, `wire-log.ts:364–370`. -/
def summarizeJson (host : Host) (v : Json) (url : String) : Option (List String) :=
  match v with
  | .obj members =>
    if isAsMetadataPath url then asMetadata host v
    else
      match items? (v.get? "messages") with
      | some messages => llmRequest host v messages
      | none =>
        match items? (v.get? "choices") with
        | some choices => llmResponse v choices
        | none => some (jsonRpc host members)
  | _ => some (prettyJson host v)

/-- What a line of an event stream carries. -/
def sseData (host : Host) (line : String) : Option Json :=
  if startsWith line "data:" then
    host.parseJson (trim (String.ofList (line.toList.drop "data:".length)))
  else none

/-- One line of `renderSse`. -/
def sseLines (host : Host) (line : String) : Option (List String) :=
  match sseData host line with
  | none => some [line]
  | some data => (summarizeJson host data "").map fun lines ↦ "data:" :: lines.map ("  " ++ ·)

/-- Model of `renderSse`, `wire-log.ts:350–362`. -/
def renderSse (host : Host) (body : String) : Option (List String) :=
  (((splitLines body).filter fun line ↦ trim line ≠ "").mapM (sseLines host)).map List.flatten

/-- How a body is read. -/
inductive BodyKind where
  | form
  | events
  | json (v : Json)
  | text

/-- The branches of `wire-log.ts:330–339`. -/
def bodyKind (host : Host) (mode : WireMode) (body : String) (ct : Option String) : BodyKind :=
  if ct.any (includes · "form-urlencoded") then .form
  else if ct.any (includes · "event-stream") && mode = .pretty then .events
  else if ct.any (includes · "json") then
    match host.parseJson body with
    | some v => .json v
    | none => .text
  else .text

/-- The lines of a body before they are cut. -/
def bodyLines (host : Host) (mode : WireMode) (body : String) (ct : Option String) (url : String) :
    Option (List String) :=
  match bodyKind host mode body ct with
  | .form => some ((host.searchParams body).map fun param ↦ param.1 ++ "=" ++ param.2)
  | .events => renderSse host body
  | .json v =>
    match mode with
    | .full => some (prettyJson host v)
    | .pretty => summarizeJson host v url
  | .text => some (splitLines body)

/-- Model of `renderBody`, `wire-log.ts:328–347`; no limit for `maxBody` zero. -/
def renderBody (host : Host) (mode : WireMode) (maxBody : Nat) (body : String) (ct : Option String)
    (url : String) : Option (List String) :=
  (bodyLines host mode body ct url).map fun all ↦
    let lines := (all.reverse.dropWhile fun line ↦ trim line = "").reverse
    let text := "\n".intercalate lines
    if 0 < maxBody ∧ maxBody < codeLength text then
      splitLines (sliceTo maxBody text ++ "\n… (" ++ toString (codeLength text - maxBody) ++
        " more chars; raise HTTP_WIRE_LOG_MAX_BODY)")
    else lines

end Bodies

section Headline

/-- `form.get(name)`. -/
def formValue (form : List (String × String)) (name : String) : Option String :=
  (form.find? fun param ↦ param.1 = name).map Prod.snd

/-- The headline of a form: `wire-log.ts:167–175`. -/
def formHeadline (host : Host) (r : WireRecord) : Option String :=
  if (contentType r.requestHeaders).any (includes · "form-urlencoded") then
    (present r.requestBody).bind fun body ↦
      let form := host.searchParams body
      (present (formValue form "grant_type")).map fun grant ↦
        if endsWith grant ":token-exchange" then
          "token-exchange  aud=" ++ (formValue form "audience").getD "?" ++ " scope=" ++
            (formValue form "scope").getD "?" ++
            if (present (r.requestHeaders.lookup "dpop")).isSome then "  (DPoP-bound)" else ""
        else "token  grant_type=" ++ grant
  else none

/-- The tool that an MCP request calls: `wire-log.ts:192`. -/
def calledTool (host : Host) (method : String) (params : Json) : Option String :=
  if method = "tools/call" then
    let arguments := ((params.get? "arguments").filter Json.notNull).getD (.obj [])
    (textOf (params.get? "name")).map fun name ↦ " " ++ name ++ " " ++ host.stringify arguments
  else some ""

/-- The headline of an MCP request: `wire-log.ts:191–194`. -/
def mcpHeadline (host : Host) (r : WireRecord) (method : String) (params : Json) :
    Option String :=
  (calledTool host method params).map fun tool ↦
    "MCP " ++ method ++ tool ++
      if (present (r.requestHeaders.lookup "authorization")).isSome then ""
      else "  (no token: discovery probe)"

/-- The headline of an A2A request: `wire-log.ts:196–199`. -/
def a2aHeadline (method : String) (params : Json) : String :=
  let parts := itemsOf ((orEmpty (params.get? "message")).get? "parts")
  let text := parts.findSome? fun p ↦ Json.string? (p.get? "text")
  "A2A " ++ method ++ match present text with
    | some text => "  \"" ++ clip (collapseSpace text) 60 ++ "\""
    | none => ""

/-- What a call is. -/
inductive CallKind where
  | form (text : String)
  | protectedResource
  | asMetadata
  | chat (messages tools : Nat)
  | mcp (method : String) (params : Json)
  | a2a (method : String) (params : Json)
  | other

/-- `path` of `headline`. -/
def urlPath (host : Host) (r : WireRecord) : String :=
  ((host.parseUrl r.url).map Prod.fst).getD r.url

/-- `search` of `headline`. -/
def urlSearch (host : Host) (r : WireRecord) : String :=
  ((host.parseUrl r.url).map Prod.snd).getD ""

/-- The branches of `wire-log.ts:167–201`. -/
def callKind (host : Host) (r : WireRecord) : CallKind :=
  match formHeadline host r with
  | some text => .form text
  | none =>
    if includes (urlPath host r) "/.well-known/oauth-protected-resource" then .protectedResource
    else if isAsMetadataPath (urlPath host r) then .asMetadata
    else
      let body := orEmpty (r.requestBody.bind host.parseJson)
      match items? (body.get? "messages"), endsWith (urlPath host r) "/chat/completions" with
      | some messages, true => .chat messages.length (itemsOf (body.get? "tools")).length
      | _, _ =>
        match (body.get? "jsonrpc").any Json.truthy, Json.string? (body.get? "method") with
        | true, some method =>
          let params := orEmpty (body.get? "params")
          if (present (r.requestHeaders.lookup "mcp-protocol-version")).isSome then
            .mcp method params
          else .a2a method params
        | _, _ => .other

/-- Model of `headline`, `wire-log.ts:155–202`. -/
def headline (host : Host) (r : WireRecord) : Option String :=
  match callKind host r with
  | .form text => some text
  | .protectedResource => some "discovery  protected-resource metadata (RFC 9728)"
  | .asMetadata => some "discovery  authorization-server metadata (RFC 8414)"
  | .chat messages tools =>
    some ("LLM chat  " ++ toString messages ++ " messages, " ++ toString tools ++ " tools")
  | .mcp method params => mcpHeadline host r method params
  | .a2a method params => some (a2aHeadline method params)
  | .other => some (r.method ++ " " ++ urlPath host r ++ urlSearch host r)

end Headline

/-- What the wire log writes with a body limit. -/
def rendering (host : Host) (mode : WireMode) (maxBody : Nat) : Rendering where
  headline := headline host
  renderBody := renderBody host mode maxBody
  jwtLines := jwtLines host mode

end AgentsAuth.Otel
