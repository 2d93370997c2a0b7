import AgentsAuth.AuthCurity.Verify
import AgentsAuth.Lib.Cel

/-!
# The policies of the gateway

The rules of `k8s/workloads/agentgateway-config.yaml` for the MCP route of the tools that write,
over the claims of the caller's token and the tool call that the gateway reads in the body of a
request.
-/

namespace AgentsAuth.Gateway

open AgentsAuth.AuthCurity AgentsAuth.Base AgentsAuth.Curity AgentsAuth.Lib
open AgentsAuth.Lib.Cel (Expr Domain)

/-- A value of a rule: JSON, or the claims of a token. -/
inductive Value where
  | json (value : Json)
  | record (claims : Claims)

namespace Value

/-- The JSON that a value is. -/
def json? : Value → Option Json
  | json value => some value
  | record _ => none

/-- The field of a map. -/
def field? : Value → String → Option (Option Value)
  | json (.obj members), name => some ((members.lookup name).map json)
  | record claims, name => some ((claims name).map json)
  | _, _ => none

/-- Equality as far as the rules need it, which compare with texts only. -/
def same : Value → Value → Bool
  | json a, json b => Json.sameValue a b
  | _, _ => false

/-- Whether a list has an item, or a map a key. -/
def contains? (x : Value) : Value → Option Bool
  | json (.arr items) => some (items.any fun item ↦ same x (json item))
  | json (.obj members) =>
    match x with
    | json (.str key) => some (members.lookup key).isSome
    | _ => some false
  | _ => none

end Value

/-- The values of the rules. -/
def values : Domain Value where
  ofBool b := .json (.bool b)
  ofText s := .json (.str s)
  ofList items := .json (.arr (items.filterMap Value.json?))
  toBool? v :=
    match v with
    | .json (.bool b) => some b
    | _ => none
  toText? v :=
    match v with
    | .json (.str s) => some s
    | _ => none
  field? := Value.field?
  contains? := Value.contains?
  same := Value.same
  toBool?_ofBool _ := rfl

/-- `text.split(separator)` for a separator of one character. -/
def split (separator text : String) : List String :=
  match separator.toList with
  | [c] => piecesBy (· = c) text
  | _ => [text]

/-- A message of the MCP protocol: a call of a tool, or another one. -/
inductive Message where
  | call (tool : String) (args : Option Json)
  | other (method : String)

/-- What a rule can name: the token's claims, and `mcp` where the message calls a tool. -/
def environment (claims : Claims) (message : Message) (name : String) : Option Value :=
  if name = "jwt" then some (.record claims)
  else if name = "mcp" then
    match message with
    | .call tool args =>
      some (.json (.obj [("tool", .obj (Json.members [("name", some (.str tool)),
        ("arguments", args)]))]))
    | .other _ => none
  else none

/-- `mcp.tool.name`. -/
def toolName : Expr := .select (.select (.root "mcp") "tool") "name"

/-- `mcp.tool.arguments`. -/
def toolArguments : Expr := .select (.select (.root "mcp") "tool") "arguments"

/-- `"<scope>" in (jwt.scope.split(" "))`. -/
def hasScope (scope : String) : Expr :=
  .isIn (.text scope) (.split (.select (.root "jwt") "scope") " ")

/-- `"<scope>" in (jwt.scope.split(" ")) && mcp.tool.name in ["<tool>", …]`. -/
def tierRule (scope : String) (tools : List String) : Expr :=
  .and (hasScope scope) (.isIn toolName (.texts tools))

/-- `mcp.tool.name == "set_deployment_image" && !("sre" in jwt.roles)`. -/
def roleRule : Expr :=
  .and (.eq toolName (.text "set_deployment_image"))
    (.not (.isIn (.text "sre") (.select (.root "jwt") "roles")))

/-- `has(mcp.tool.arguments.namespace) && mcp.tool.arguments.namespace != "prod"`. -/
def namespaceRule : Expr :=
  .and (.has toolArguments "namespace") (.ne (.select toolArguments "namespace") (.text "prod"))

/-- `text.stripPrefix(start)`. -/
def stripPrefix (start text : String) : String :=
  if start.toList.isPrefixOf text.toList then
    String.ofList (text.toList.drop start.toList.length)
  else text

/-- What follows the start is left. -/
theorem stripPrefix_append (start text : String) : stripPrefix start (start ++ text) = text := by
  have hpre : start.toList.isPrefixOf (start ++ text).toList = true := by
    rw [List.isPrefixOf_iff_prefix, String.toList_append]
    exact List.prefix_append _ _
  rw [stripPrefix, if_pos hpre, String.toList_append, List.drop_left, String.ofList_toList]

/-- The policies of a route: the audience that the token of a caller has, the one that the shim
exchanges it for, the `deny` rules of `authorization` and the rule of `mcpAuthorization`. -/
structure RoutePolicies where
  audience : String
  targetAudience : String
  deny : List Expr
  allow : Expr

/-- The route `ops`: `agentgateway-config.yaml:213–342`. -/
def opsRoute : RoutePolicies :=
  { audience := "mcp-gateway"
    targetAudience := "mcp-ops"
    deny := [roleRule, namespaceRule]
    allow := tierRule "ops:write"
      ["restart_deployment", "scale_deployment", "set_deployment_image"] }

/-- The rule of the route `llm`, which has to hold: `agentgateway-config.yaml:378–380`. -/
def llmRequirement : Expr := hasScope "llm:invoke"

/-- A rule applies to a message with a token. -/
def applies (claims : Claims) (message : Message) (rule : Expr) : Bool :=
  Cel.holds values split (environment claims message) rule

/-- The HTTP layer refuses the message. -/
def RoutePolicies.denies (route : RoutePolicies) (claims : Claims) (message : Message) : Bool :=
  route.deny.any (applies claims message)

/-- The MCP layer lets the message through: a call only where the rule holds, and any other one. -/
def RoutePolicies.allows (route : RoutePolicies) (claims : Claims) : Message → Bool
  | .call tool args => applies claims (.call tool args) route.allow
  | .other _ => true

section Rules

variable {claims : Claims} {message : Message} {tool : String} {args : Option Json}

private theorem eval_toolName :
    Cel.eval values split (environment claims (.call tool args)) toolName =
      some (.json (.str tool)) := rfl

private theorem eval_jwt (name : String) :
    Cel.eval values split (environment claims message) (.select (.root "jwt") name) =
      (claims name).map .json := rfl

private theorem eval_toolArguments :
    Cel.eval values split (environment claims (.call tool args)) toolArguments =
      args.map .json := by
  cases args with
  | none => rfl
  | some args => rfl

private theorem same_text {s : String} {value : Json} :
    Value.same (.json value) (.json (.str s)) = true ↔ value = .str s := by
  cases value with
  | str s' => simp [Value.same, Json.sameValue]
  | _ => simp [Value.same, Json.sameValue]

/-- A list of texts has a text that is one of them. -/
theorem contains_texts (s : String) (items : List String) :
    Value.contains? (.json (.str s)) (.json (jsonStrings items)) = some (items.contains s) := by
  rw [jsonStrings, Value.contains?, List.any_map, Option.some.injEq]
  induction items with
  | nil => rfl
  | cons item items ih =>
    rw [List.any_cons, ih, List.contains_cons]
    rfl

private theorem ofList_texts (items : List String) :
    values.ofList (items.map values.ofText) = .json (jsonStrings items) := by
  simp [values, jsonStrings, Value.json?, List.filterMap_map, Function.comp_def]

/-- A token has a scope where its scope claim is a text that has it between blanks. -/
theorem applies_hasScope_iff {scope : String} :
    applies claims message (hasScope scope) = true ↔
      ∃ s, claims "scope" = some (.str s) ∧ scope ∈ piecesBy (· = ' ') s := by
  have hverdict : Cel.verdict values split (environment claims message) (hasScope scope) =
      (claims "scope").bind fun value ↦ (values.toText? (.json value)).map fun s ↦
        (piecesBy (· = ' ') s).any (scope = ·) := by
    rw [hasScope, Cel.verdict_isIn (x := .json (.str scope)) rfl, Cel.eval, eval_jwt]
    cases claims "scope" with
    | none => rfl
    | some value =>
      cases value with
      | str s =>
        show Value.contains? _ (values.ofList ((piecesBy (· = ' ') s).map values.ofText)) = _
        rw [ofList_texts, contains_texts, List.contains_eq_any_beq]
        rfl
      | _ => rfl
  rw [applies, Cel.holds, hverdict, decide_eq_true_eq]
  cases claims "scope" with
  | none => simp
  | some value =>
    cases value with
    | str s => simp [values]
    | _ => simp [values]

/-- A token with its scopes joined by single blanks has just these. -/
theorem applies_hasScope_joined_iff {t : TokenData} {scope : String}
    (hne : t.subjectScopes ≠ []) (h : t.scope = some (" ".intercalate t.subjectScopes)) :
    applies (tokenClaims t) message (hasScope scope) = true ↔ scope ∈ t.subjectScopes := by
  have hclaim : tokenClaims t "scope" = some (.str (" ".intercalate t.subjectScopes)) := by
    show t.scope.map Json.str = _
    rw [h]
    rfl
  have hpieces : piecesBy (· = ' ') (" ".intercalate t.subjectScopes) = t.subjectScopes := by
    apply piecesBy_intercalate (c := ' ') (decide_eq_true rfl) hne
    intro s hs x hx
    rw [decide_eq_false_iff_not]
    rintro rfl
    have hword := (TokenData.isWord_of_mem_subjectScopes hs).2 ' ' hx
    exact absurd hword (by decide)
  rw [applies_hasScope_iff, hclaim]
  constructor
  · rintro ⟨s, heq, hmem⟩
    cases heq
    rwa [hpieces] at hmem
  · intro hmem
    exact ⟨_, rfl, hpieces.symm ▸ hmem⟩

/-- The rule of a tier allows the calls of its tools to a token with its scope. -/
theorem applies_tierRule_iff {scope : String} {tools : List String} :
    applies claims (.call tool args) (tierRule scope tools) = true ↔
      applies claims (.call tool args) (hasScope scope) = true ∧ tool ∈ tools := by
  have hlisted : Cel.holds values split (environment claims (.call tool args))
      (.isIn toolName (.texts tools)) = tools.contains tool := by
    have hcontains : values.contains? = Value.contains? := rfl
    rw [Cel.holds, Cel.verdict_isIn (x := .json (.str tool)) eval_toolName, Cel.eval,
      Option.bind_some, ofList_texts, hcontains, contains_texts]
    simp
  rw [applies, tierRule, Cel.holds_and_iff, hlisted, List.contains_iff_mem]
  rfl

/-- The role rule refuses `set_deployment_image` to a token whose roles are a list without `sre`, or
a map without this key. -/
theorem applies_roleRule_iff :
    applies claims (.call tool args) roleRule = true ↔
      tool = "set_deployment_image" ∧
        ((claims "roles").map .json).bind (Value.contains? (.json (.str "sre"))) = some false := by
  rw [applies, roleRule, Cel.holds_and_iff, Cel.holds_not_iff,
    Cel.verdict_isIn (x := .json (.str "sre")) rfl, eval_jwt, Cel.holds,
    Cel.verdict_eq (y := .json (.str "set_deployment_image")) rfl, eval_toolName]
  simp [values, same_text]

/-- The namespace rule refuses a call whose arguments have a namespace other than `prod`. -/
theorem applies_namespaceRule_iff :
    applies claims (.call tool args) namespaceRule = true ↔
      ∃ members value, args = some (.obj members) ∧ members.lookup "namespace" = some value ∧
        value ≠ .str "prod" := by
  rw [applies, namespaceRule, Cel.holds_and_iff, Cel.holds, Cel.verdict_has, eval_toolArguments,
    Cel.holds, Cel.verdict_ne (y := .json (.str "prod")) rfl, Cel.eval, eval_toolArguments]
  cases args with
  | none => simp
  | some args =>
    cases args with
    | obj members =>
      cases hvalue : members.lookup "namespace" with
      | none => simp [values, Value.field?, hvalue]
      | some value =>
        have hsame := @same_text "prod" value
        simp [values, Value.field?, hvalue, ← hsame]
    | _ => simp [values, Value.field?]

/-- No rule refuses a message that calls no tool. -/
theorem denies_other (method : String) : opsRoute.denies claims (.other method) = false := by
  have hname : Cel.eval values split (environment claims (.other method)) toolName = none := rfl
  have hargs : Cel.eval values split (environment claims (.other method)) toolArguments = none :=
    rfl
  rw [RoutePolicies.denies, List.any_eq_false]
  intro rule hrule
  simp only [opsRoute, List.mem_cons, List.not_mem_nil, or_false] at hrule
  rcases hrule with rfl | rfl
  · rw [applies, roleRule, Cel.holds_and_iff, Cel.holds,
      Cel.verdict_eq (y := .json (.str "set_deployment_image")) rfl, hname]
    simp
  · rw [applies, namespaceRule, Cel.holds_and_iff, Cel.holds, Cel.verdict_has, hargs]
    simp

end Rules

end AgentsAuth.Gateway
