import AgentsAuth.Lib.BackReferences
import AgentsAuth.Lib.Machine
import AgentsAuth.Lib.Regex

/-!
# The wire log

`formatWireLog` and `wrapFetch` of `packages/otel-bootstrap/src/wire-log.ts`. A call gets its number
in its trace when it is sent, and its block is printed when it has completed, whatever was sent or
completed in between. In pretty mode a token is expanded by the first block of a trace that has it,
and referred to by its number after that.
-/

namespace AgentsAuth.Otel

open AgentsAuth.Lib AgentsAuth.Lib.Regex

/-- Header names, as `Headers` lower-cases them, with their values. -/
abbrev Headers := List (String × String)

/-- `WireRecord` of `wire-log.ts:77–96`; `sentAt` is `at`. -/
structure WireRecord where
  service : String
  sentAt : String
  seq : Option Nat
  traceId : Option String
  spanId : Option String
  method : String
  url : String
  requestHeaders : Headers
  requestBody : Option String
  ms : Int
  status : Option Nat
  statusText : Option String
  responseHeaders : Option Headers
  responseBody : Option String
  error : Option String

/-- The number of a record as a condition takes it: zero is none. -/
def WireRecord.number (r : WireRecord) : Option Nat := r.seq.filter (· ≠ 0)

/-- `WireMode` of `wire-log.ts:29`. -/
inductive WireMode where
  | pretty
  | full
deriving DecidableEq

/-- What the formatter writes without regard to numbers and tokens, for one mode and body limit:
`headline`, `renderBody` of a body with its content type and URL, and `jwtLines` of a token in a
call of some time. `none` where they throw. -/
structure Rendering where
  headline : WireRecord → Option String
  renderBody : String → Option String → String → Option (List String)
  jwtLines : String → String → Option (List String)

/-- The characters of a token's parts. -/
def isTokenPart (c : Char) : Bool := isWordChar c || c = '-'

/-- `JWT_RE` of `wire-log.ts:27`. -/
def jwtRe : Regex :=
  .seq (lit "eyJ") (.seq (.many isTokenPart 0 none) (.seq (lit ".eyJ")
    (.seq (.many isTokenPart 0 none) (.seq (lit ".") (.many isTokenPart 0 none)))))

/-- `NOISY_RESPONSE_HEADERS` of `wire-log.ts:32–44`. -/
def noisyResponseHeaders : List String :=
  ["date", "connection", "keep-alive", "transfer-encoding", "content-length", "vary", "etag",
    "x-powered-by", "cache-control", "pragma", "expires"]

/-- `SHOWN_RESPONSE_HEADERS` of `wire-log.ts:51–57`. -/
def shownResponseHeaders : List String :=
  ["content-type", "www-authenticate", "dpop-nonce", "location", "retry-after"]

/-- Model of `wire-log.ts:486–488`. -/
def showResponseHeader (mode : WireMode) (k : String) : Bool :=
  match mode with
  | .full => !noisyResponseHeaders.contains k
  | .pretty => shownResponseHeaders.contains k || "mcp-".toList.isPrefixOf k.toList

/-- Model of `wire-log.ts:482–484`. -/
def contentType (headers : Headers) : Option String :=
  (headers.find? fun header ↦ header.1 = "content-type").map Prod.snd

/-- `s.trimEnd()`. -/
def trimEnd (s : String) : String := String.ofList (s.toList.reverse.dropWhile isSpace).reverse

/-- A string that is neither missing nor empty. -/
def present (s : Option String) : Option String := s.filter (· ≠ "")

/-- What `formatWireLog` does next: `out.push`, `push`, or throw. -/
inductive Step where
  | plain (line : String)
  | push (line : String)
  | throws

/-- The lines of headers. -/
def headerSteps (headers : Headers) : List Step :=
  headers.map fun header ↦ .push (header.1 ++ ": " ++ header.2)

/-- A body after an empty line. -/
def bodySteps (rendering : Rendering) (body : String) (headers : Headers) (url : String) :
    List Step :=
  match rendering.renderBody body (contentType headers) url with
  | none => [.throws]
  | some lines => .plain "│" :: lines.map .push

/-- The second half of a block: `wire-log.ts:137–147`. -/
def responseSteps (rendering : Rendering) (mode : WireMode) (r : WireRecord) : List Step :=
  match present r.error with
  | some error => [.plain ("├─ ◀ FAILED (" ++ toString r.ms ++ " ms): " ++ error)]
  | none =>
    let headers := r.responseHeaders.getD []
    let status := (r.status.map toString).getD "undefined" ++ " " ++ r.statusText.getD ""
    .plain (trimEnd ("├─ ◀ " ++ status) ++ " (" ++ toString r.ms ++ " ms)") ::
      headerSteps (headers.filter fun header ↦ showResponseHeader mode header.1) ++
      match r.responseBody.filter (trim · ≠ "") with
      | some body => bodySteps rendering body headers r.url
      | none => []

/-- The steps of `wire-log.ts:124–148`. -/
def formatSteps (rendering : Rendering) (mode : WireMode) (r : WireRecord) : List Step :=
  match rendering.headline r with
  | none => [.throws]
  | some headline =>
    let number := (r.number.map fun seq ↦ "#" ++ toString seq ++ " ").getD ""
    [.plain ("┌─ " ++ number ++ r.sentAt ++ " [" ++ r.service ++ "] " ++ headline),
      .plain ("│ " ++ r.method ++ " " ++ r.url)] ++
    ((present r.traceId).map fun traceId ↦
      .plain ("│ trace " ++ match present r.spanId with
        | some spanId => traceId ++ " ▸ " ++ spanId
        | none => traceId)).toList ++
    headerSteps r.requestHeaders ++
    (match present r.requestBody with
      | some body => bodySteps rendering body r.requestHeaders r.url
      | none => []) ++
    responseSteps rendering mode r ++ [.plain "└─"]

/-- The tokens of a trace with the numbers of the blocks that expanded them. -/
abbrev Tokens := InsertionMap String Nat

/-- A part of a line: text, or a token that is expanded or referred to. -/
inductive Part where
  | text (s : String)
  | token (mark : Mark String Nat)

/-- The mark of a part. -/
def Part.mark? : Part → Option (Mark String Nat)
  | .text _ => none
  | .token mark => some mark

/-- A line in its parts. -/
abbrev Line := List Part

/-- The callback of `wire-log.ts:225–233`: without a number or a table every token is expanded. -/
def markToken (seq : Option Nat) (seen : Option Tokens) (jwt : String) :
    Mark String Nat × Option Tokens :=
  match seq, seen with
  | some seq, some seen => ((Mark.mark seq seen jwt).1, some (Mark.mark seq seen jwt).2)
  | _, _ => (.fresh jwt, seen)

/-- `line.replace(JWT_RE, …)`. -/
def markPieces (seq : Option Nat) : Option Tokens → List Piece → Line × Option Tokens
  | seen, [] => ([], seen)
  | seen, .char c :: ps =>
    let rest := markPieces seq seen ps
    (.text (String.singleton c) :: rest.1, rest.2)
  | seen, .hit w :: ps =>
    let m := markToken seq seen (String.ofList w)
    let rest := markPieces seq m.2 ps
    (.token m.1 :: rest.1, rest.2)

/-- `expand`: the tokens that a line shows for the first time. -/
def expanded (line : Line) : List String :=
  line.filterMap fun
    | .token (.fresh jwt) => some jwt
    | _ => none

/-- Model of `pushLine`, `wire-log.ts:218–236`: the lines, or `none` where it throws, and the table
in either case. -/
def pushLine (rendering : Rendering) (mode : WireMode) (r : WireRecord) (seen : Option Tokens)
    (line : String) : Option (List Line) × Option Tokens :=
  let below (jwts : List String) : Option (List Line) :=
    (jwts.mapM fun jwt ↦ rendering.jwtLines jwt r.sentAt).map fun lines ↦
      lines.flatten.map fun line ↦ [.text line]
  match mode with
  | .full => ((below (matchAll jwtRe line)).map ([.text ("│ " ++ line)] :: ·), seen)
  | .pretty =>
    let shown := markPieces r.number seen (pieces jwtRe line)
    ((below (expanded shown.1)).map ((.text "│ " :: shown.1) :: ·), shown.2)

/-- The steps one after the other, up to one that throws. -/
def runSteps (rendering : Rendering) (mode : WireMode) (r : WireRecord) :
    Option Tokens → List Step → Option (List Line) × Option Tokens
  | seen, [] => (some [], seen)
  | seen, .throws :: _ => (none, seen)
  | seen, .plain line :: steps =>
    let rest := runSteps rendering mode r seen steps
    (rest.1.map ([.text line] :: ·), rest.2)
  | seen, .push line :: steps =>
    match pushLine rendering mode r seen line with
    | (none, seen) => (none, seen)
    | (some lines, seen) =>
      let rest := runSteps rendering mode r seen steps
      (rest.1.map (lines ++ ·), rest.2)

/-- Model of `formatWireLog`, `wire-log.ts:123–150`: the block in its lines, or `none` where it
throws, and the table in either case. -/
def formatWireLog (rendering : Rendering) (mode : WireMode) (r : WireRecord)
    (seen : Option Tokens) : Option (List Line) × Option Tokens :=
  runSteps rendering mode r seen (formatSteps rendering mode r)

/-- Model of `wire-log.ts:238–240`; tokens are ASCII. -/
def shortJwt (jwt : String) : String :=
  let cs := jwt.toList
  String.ofList (cs.take 8) ++ "…" ++ String.ofList (cs.drop (cs.length - 6)) ++ " (" ++
    toString cs.length ++ " chars)"

/-- What a part prints in the block `seq`: `wire-log.ts:230,232`. -/
def Part.toText (seq : Option Nat) : Part → String
  | .text s => s
  | .token (.fresh jwt) => shortJwt jwt
  | .token (.same jwt first) =>
    shortJwt jwt ++ " (same token as " ++
      (if seq = some first then "above" else "#" ++ toString first) ++ ")"

/-- A block that was printed. -/
structure Block where
  record : WireRecord
  lines : List Line

/-- The marks of a block, from top to bottom. -/
def Block.marks (b : Block) : List (Mark String Nat) := b.lines.flatten.filterMap Part.mark?

/-- The text of a block: `out.join('\n')`. -/
def Block.toText (b : Block) : String :=
  "\n".intercalate (b.lines.map fun line ↦ String.join (line.map (Part.toText b.record.seq)))

/-- What is kept for a trace: the last number handed out and the tokens already expanded. -/
structure Trace where
  seq : Nat
  tokens : Tokens

/-- `traces` of `wrapFetch`. -/
abbrev Traces := InsertionMap String Trace

/-- Model of `nextSeq`, `wire-log.ts:519–527`. -/
def nextSeq (traces : Traces) (traceId : Option String) : Option Nat × Traces :=
  match present traceId with
  | none => (none, traces)
  | some traceId =>
    let t := (traces.get? traceId).getD ⟨0, InsertionMap.empty⟩
    let traces := (traces.erase traceId).set traceId ⟨t.seq + 1, t.tokens⟩
    (some (t.seq + 1), if 256 < traces.size then traces.evictTo (traces.size - 1) else traces)

/-- What a call of the wrapped `fetch` reads when it is made: `wire-log.ts:530–541`. -/
structure Request where
  sentAt : String
  traceId : Option String
  spanId : Option String
  method : String
  url : String
  requestHeaders : Headers

/-- How `original` ends. -/
inductive Outcome where
  | rejected (message : String)
  | response (status : Nat) (statusText : String) (headers : Headers) (body : String)

/-- What happens in a process: a call is sent, or one completes. The body of its request may be
unknown, and writing its block may throw. -/
inductive Event where
  | send (request : Request)
  | complete (call : Nat) (requestBody : Option String) (ms : Int) (outcome : Outcome)
      (writes : Bool)

/-- The state of a process: the table, the calls in the order in which they were sent, those whose
block was due, and the blocks that were written. -/
structure State where
  traces : Traces
  calls : List WireRecord
  emitted : List Nat
  written : List Block

/-- `base` of `wire-log.ts:533–542`. -/
def baseRecord (service : String) (q : Request) (seq : Option Nat) : WireRecord where
  service := service
  sentAt := q.sentAt
  seq := seq
  traceId := q.traceId
  spanId := q.spanId
  method := q.method
  url := q.url
  requestHeaders := q.requestHeaders
  requestBody := none
  ms := 0
  status := none
  statusText := none
  responseHeaders := none
  responseBody := none
  error := none

/-- The record of a completed call: `wire-log.ts:558,566–574`. -/
def completeRecord (base : WireRecord) (requestBody : Option String) (ms : Int) :
    Outcome → WireRecord
  | .rejected message =>
    { base with requestBody := requestBody, ms := ms, error := some message }
  | .response status statusText headers body =>
    { base with
      requestBody := requestBody
      ms := ms
      status := some status
      statusText := some statusText
      responseHeaders := some headers
      responseBody := some body }

/-- `seenTokens` of `wire-log.ts:546`. -/
def seenTokens (traces : Traces) (r : WireRecord) : Option Tokens :=
  ((present r.traceId).bind traces.get?).map Trace.tokens

/-- The table after its tokens were updated in place. -/
def updateTokens (traces : Traces) (r : WireRecord) (seen : Option Tokens) : Traces :=
  match (present r.traceId), seen with
  | some traceId, some tokens =>
    match traces.get? traceId with
    | some t => traces.set traceId { t with tokens := tokens }
    | none => traces
  | _, _ => traces

/-- The options of `wrapFetch`; the body limit is part of the rendering. -/
structure WireLogOptions where
  service : String
  mode : WireMode
  rendering : Rendering

/-- Model of `emit`, `wire-log.ts:544–551`: what is thrown is swallowed. -/
def emit (opts : WireLogOptions) (s : State) (r : WireRecord) (writes : Bool) : State :=
  let result := formatWireLog opts.rendering opts.mode r (seenTokens s.traces r)
  { s with
    traces := updateTokens s.traces r result.2
    written :=
      match result.1 with
      | some lines => if writes then s.written ++ [⟨r, lines⟩] else s.written
      | none => s.written }

/-- One event; a call completes once. -/
def step (opts : WireLogOptions) (s : State) : Event → State
  | .send q =>
    let next := nextSeq s.traces q.traceId
    { s with traces := next.2, calls := s.calls ++ [baseRecord opts.service q next.1] }
  | .complete call requestBody ms outcome writes =>
    match s.calls[call]? with
    | none => s
    | some base =>
      if call ∈ s.emitted then s
      else
        emit opts { s with emitted := call :: s.emitted }
          (completeRecord base requestBody ms outcome) writes

/-- A process with the wrapped `fetch` of `wire-log.ts:514–578`. -/
def wrapFetch (opts : WireLogOptions) : Machine State Event Unit where
  init := ⟨InsertionMap.empty, [], [], []⟩
  step s e := (step opts s e, ())

/-- The tokens that a block comes to before a step throws. -/
def reachedTokens : List Step → List String
  | [] => []
  | .throws :: _ => []
  | .plain _ :: steps => reachedTokens steps
  | .push line :: steps => matchAll jwtRe line ++ reachedTokens steps

/-- The marks of tokens in a row, and the table after them. -/
def markTokens (seq : Option Nat) (seen : Option Tokens) (jwts : List String) :
    List (Mark String Nat) × Option Tokens :=
  match seq, seen with
  | some seq, some tokens =>
    ((Mark.markAll seq tokens jwts).1, some (Mark.markAll seq tokens jwts).2)
  | _, _ => (jwts.map .fresh, seen)

section Format

variable {rendering : Rendering} {mode : WireMode} {r : WireRecord} {seq : Option Nat}
  {seen : Option Tokens}

private def marksOf (lines : List Line) : List (Mark String Nat) :=
  lines.flatten.filterMap Part.mark?

private theorem marksOf_append (lines lines' : List Line) :
    marksOf (lines ++ lines') = marksOf lines ++ marksOf lines' := by
  rw [marksOf, List.flatten_append, List.filterMap_append]
  rfl

private theorem marksOf_text (lines : List String) :
    marksOf (lines.map fun line ↦ [.text line]) = [] := by
  induction lines with
  | nil => rfl
  | cons line lines ih => exact ih

private theorem markTokens_nil : markTokens seq seen [] = ([], seen) := by
  unfold markTokens
  split
  · rfl
  · rfl

private theorem markTokens_cons (jwt : String) (jwts : List String) :
    markTokens seq seen (jwt :: jwts) =
      ((markToken seq seen jwt).1 :: (markTokens seq (markToken seq seen jwt).2 jwts).1,
        (markTokens seq (markToken seq seen jwt).2 jwts).2) := by
  cases seq with
  | none => rfl
  | some seq =>
    cases seen with
    | none => rfl
    | some tokens => rfl

private theorem markTokens_append (jwts jwts' : List String) :
    markTokens seq seen (jwts ++ jwts') =
      ((markTokens seq seen jwts).1 ++ (markTokens seq (markTokens seq seen jwts).2 jwts').1,
        (markTokens seq (markTokens seq seen jwts).2 jwts').2) := by
  cases seq with
  | none => simp [markTokens]
  | some seq =>
    cases seen with
    | none => simp [markTokens]
    | some tokens => simp [markTokens, Mark.markAll_append]

/-- A line marks its tokens in their order. -/
theorem markPieces_spec (ps : List Piece) :
    (markPieces seq seen ps).1.filterMap Part.mark? =
        (markTokens seq seen ((ps.filterMap Piece.hit?).map String.ofList)).1 ∧
      (markPieces seq seen ps).2 =
        (markTokens seq seen ((ps.filterMap Piece.hit?).map String.ofList)).2 := by
  induction ps generalizing seen with
  | nil => simp [markPieces, markTokens_nil]
  | cons p ps ih =>
    cases p with
    | char c =>
      simp only [markPieces]
      rw [List.filterMap_cons_none rfl, List.filterMap_cons_none rfl]
      exact ih
    | hit w =>
      have hrest := @ih (markToken seq seen (String.ofList w)).2
      simp only [markPieces, List.filterMap_cons, Part.mark?, Piece.hit?, List.map_cons,
        markTokens_cons]
      exact ⟨congrArg _ hrest.1, hrest.2⟩

/-- What a line marks and records, whether it throws or not. -/
private theorem pushLine_spec (line : String) :
    ∃ jwts, jwts.Sublist (matchAll jwtRe line) ∧ (mode = .full → jwts = []) ∧
      (pushLine rendering mode r seen line).2 = (markTokens r.number seen jwts).2 ∧
      ∀ lines, (pushLine rendering mode r seen line).1 = some lines →
        marksOf lines = (markTokens r.number seen jwts).1 := by
  cases mode with
  | full =>
    refine ⟨[], List.nil_sublist _, fun _ ↦ rfl, by rw [markTokens_nil]; rfl, ?_⟩
    intro lines hlines
    rw [markTokens_nil]
    obtain ⟨below, hbelow, rfl⟩ := Option.map_eq_some_iff.mp hlines
    obtain ⟨texts, -, rfl⟩ := Option.map_eq_some_iff.mp hbelow
    exact marksOf_text _
  | pretty =>
    have hspec := @markPieces_spec r.number seen (pieces jwtRe line)
    rw [map_filterMap_pieces] at hspec
    refine ⟨matchAll jwtRe line, List.Sublist.refl _, fun h ↦ (by cases h), hspec.2, ?_⟩
    intro lines hlines
    obtain ⟨below, hbelow, rfl⟩ := Option.map_eq_some_iff.mp hlines
    obtain ⟨texts, -, rfl⟩ := Option.map_eq_some_iff.mp hbelow
    have hbelow : marksOf (texts.flatten.map fun line ↦ [.text line]) = [] := marksOf_text _
    rw [← hspec.1, ← List.append_nil (List.filterMap Part.mark? _), ← hbelow]
    exact List.filterMap_append

/-- What the steps mark and record, whether one throws or not. -/
private theorem runSteps_spec (steps : List Step) :
    ∃ jwts, jwts.Sublist (reachedTokens steps) ∧ (mode = .full → jwts = []) ∧
      (runSteps rendering mode r seen steps).2 = (markTokens r.number seen jwts).2 ∧
      ∀ lines, (runSteps rendering mode r seen steps).1 = some lines →
        marksOf lines = (markTokens r.number seen jwts).1 := by
  induction steps generalizing seen with
  | nil =>
    refine ⟨[], List.nil_sublist _, fun _ ↦ rfl, by rw [markTokens_nil]; rfl, ?_⟩
    intro lines hlines
    cases hlines
    rw [markTokens_nil]
    rfl
  | cons step steps ih =>
    cases step with
    | throws =>
      refine ⟨[], List.nil_sublist _, fun _ ↦ rfl, by rw [markTokens_nil]; rfl, ?_⟩
      intro lines hlines
      cases hlines
    | plain line =>
      obtain ⟨jwts, hsublist, hfull, hseen, hmarks⟩ := @ih seen
      refine ⟨jwts, hsublist, hfull, hseen, ?_⟩
      intro lines hlines
      obtain ⟨rest, hrest, rfl⟩ := Option.map_eq_some_iff.mp hlines
      exact hmarks rest hrest
    | push line =>
      obtain ⟨jwts, hsublist, hfull, hseen, hmarks⟩ :=
        @pushLine_spec rendering mode r seen line
      rw [runSteps]
      split
      · next seen' hpush =>
        rw [hpush] at hseen
        refine ⟨jwts, hsublist.trans (List.sublist_append_left _ _), hfull, hseen, ?_⟩
        intro lines hlines
        cases hlines
      · next lines seen' hpush =>
        rw [hpush] at hseen hmarks
        obtain ⟨jwts', hsublist', hfull', hseen', hmarks'⟩ := @ih seen'
        refine ⟨jwts ++ jwts', hsublist.append hsublist', ?_, ?_, ?_⟩
        · intro hmode
          rw [hfull hmode, hfull' hmode]
          rfl
        · rw [markTokens_append, ← hseen]
          exact hseen'
        · intro all hall
          obtain ⟨rest, hrest, rfl⟩ := Option.map_eq_some_iff.mp hall
          rw [marksOf_append, hmarks lines rfl, markTokens_append, ← hseen, hmarks' rest hrest]

end Format

/-- Each reference of a block is to an earlier block of its trace that expanded the token and has
the number given, or, where that is its own number, to a place further up in the block itself. -/
def ReferencesHold (before : List Block) (b : Block) : Prop :=
  ∀ up down jwt first, b.marks = up ++ .same jwt first :: down →
    if b.record.seq = some first then .fresh jwt ∈ up
    else
      ∃ b' ∈ before, b'.record.traceId = b.record.traceId ∧ b'.record.seq = some first ∧
        .fresh jwt ∈ b'.marks

/-- The table is true to what is printed when a call completes: no token of a block that is printed
is recorded under its number before, and a block that is not printed comes to no token that is not
recorded. -/
def Settled (opts : WireLogOptions) (s : State) (r : WireRecord) (writes : Bool) : Prop :=
  ∀ tokens, opts.mode = .pretty → seenTokens s.traces r = some tokens →
    if (formatWireLog opts.rendering opts.mode r (some tokens)).1.isSome = true ∧ writes = true then
      ∀ jwt ∈ reachedTokens (formatSteps opts.rendering opts.mode r), ∀ n, r.seq = some n →
        tokens.get? jwt ≠ some n
    else
      ∀ jwt ∈ reachedTokens (formatSteps opts.rendering opts.mode r),
        (tokens.get? jwt).isSome = true

/-- The calls that an event completes are settled. -/
def Undisturbed (opts : WireLogOptions) (s : State) : Event → Prop
  | .send _ => True
  | .complete call requestBody ms outcome writes =>
    ∀ base, s.calls[call]? = some base → call ∉ s.emitted →
      Settled opts s (completeRecord base requestBody ms outcome) writes

/-- Every token in the table was expanded by a printed block of its trace and number. -/
def TableHolds (traces : Traces) (written : List Block) : Prop :=
  ∀ traceId t, traces.get? traceId = some t → ∀ jwt n, t.tokens.get? jwt = some n →
    ∃ b ∈ written, b.record.traceId = some traceId ∧ b.record.seq = some n ∧ .fresh jwt ∈ b.marks

section Emit

variable {opts : WireLogOptions} {s : State} {r : WireRecord} {traces : Traces}
  {written : List Block} {traceId : String} {t : Trace} {tokens : Tokens} {lines : List Line}

private theorem seenTokens_eq_some_iff :
    seenTokens traces r = some tokens ↔
      ∃ traceId t, present r.traceId = some traceId ∧ traces.get? traceId = some t ∧
        t.tokens = tokens := by
  rw [seenTokens, Option.map_eq_some_iff]
  simp only [Option.bind_eq_some_iff]
  constructor
  · rintro ⟨t, ⟨traceId, hpresent, ht⟩, rfl⟩
    exact ⟨traceId, t, hpresent, ht, rfl⟩
  · rintro ⟨traceId, t, hpresent, ht, rfl⟩
    exact ⟨t, ⟨traceId, hpresent, ht⟩, rfl⟩

private theorem updateTokens_none : updateTokens traces r none = traces := by
  unfold updateTokens
  split
  · next h => cases h
  · rfl

private theorem updateTokens_some (hpresent : present r.traceId = some traceId)
    (ht : traces.get? traceId = some t) :
    updateTokens traces r (some tokens) = traces.set traceId { t with tokens := tokens } := by
  simp only [updateTokens, hpresent, ht]

private theorem traceId_of_present (h : present r.traceId = some traceId) :
    r.traceId = some traceId :=
  (Option.filter_eq_some_iff.mp h).1

private theorem seq_of_number {n : Nat} (h : r.number = some n) : r.seq = some n :=
  (Option.filter_eq_some_iff.mp h).1

/-- A reference comes from the table, or from further up in the block. -/
private theorem same_of_markTokens {seq : Option Nat} {seen : Option Tokens} {jwts : List String}
    {up down : List (Mark String Nat)} {jwt : String} {first : Nat}
    (h : (markTokens seq seen jwts).1 = up ++ .same jwt first :: down) :
    ∃ n tokens, seq = some n ∧ seen = some tokens ∧ jwt ∈ jwts ∧
      (tokens.get? jwt = some first ∨ first = n ∧ .fresh jwt ∈ up) := by
  unfold markTokens at h
  split at h
  · next n tokens =>
    obtain ⟨hmem, hfirst⟩ := Mark.same_markAll h
    exact ⟨n, tokens, rfl, rfl, hmem, hfirst⟩
  · have hfresh : jwts.map Mark.fresh = up ++ .same jwt first :: down := h
    have hmem : Mark.same jwt first ∈ jwts.map Mark.fresh := by
      rw [hfresh]
      simp
    simp at hmem

/-- What a block adds to the table is under its own number. -/
private theorem get?_markTokens (seq : Option Nat) (tokens : Tokens) (jwts : List String) :
    ∃ tokens', (markTokens seq (some tokens) jwts).2 = some tokens' ∧
      ∀ jwt n, tokens'.get? jwt = some n → tokens.get? jwt = some n ∨
        seq = some n ∧ jwt ∈ jwts ∧ tokens.get? jwt = none := by
  cases seq with
  | none => exact ⟨tokens, rfl, fun jwt n hget ↦ Or.inl hget⟩
  | some seq =>
    refine ⟨(Mark.markAll seq tokens jwts).2, rfl, ?_⟩
    intro jwt n hget
    rw [Mark.get?_markAll, Option.or_eq_some_iff] at hget
    rcases hget with hold | ⟨hnone, hnew⟩
    · exact Or.inl hold
    · rw [Option.ite_none_right_eq_some, Option.some.injEq] at hnew
      exact Or.inr ⟨congrArg some hnew.2, hnew.1, hnone⟩

/-- Only in pretty mode are tokens looked up. -/
private theorem pretty_of_mem {jwts : List String} {jwt : String}
    (hfull : opts.mode = .full → jwts = []) (hmem : jwt ∈ jwts) : opts.mode = .pretty := by
  cases hmode : opts.mode with
  | pretty => rfl
  | full =>
    rw [hfull hmode] at hmem
    cases hmem

/-- A block that is printed refers to what was printed. -/
private theorem referencesHold_emit (hsettled : Settled opts s r true)
    (htable : TableHolds s.traces s.written)
    (hlines : (formatWireLog opts.rendering opts.mode r (seenTokens s.traces r)).1 = some lines) :
    ReferencesHold s.written ⟨r, lines⟩ := by
  intro up down jwt first hmarks
  obtain ⟨jwts, hsublist, hfull, -, hspec⟩ := @runSteps_spec opts.rendering opts.mode r
    (seenTokens s.traces r) (formatSteps opts.rendering opts.mode r)
  have hmarks' : marksOf lines = up ++ .same jwt first :: down := hmarks
  rw [hspec lines hlines] at hmarks'
  obtain ⟨n, tokens, hnumber, hseen, hmem, hfirst⟩ := same_of_markTokens hmarks'
  have hseq := seq_of_number hnumber
  have hpretty := pretty_of_mem hfull hmem
  have hsome : (formatWireLog opts.rendering opts.mode r (some tokens)).1.isSome = true := by
    rw [← hseen, hlines]
    rfl
  have hother := hsettled tokens hpretty hseen
  rw [if_pos ⟨hsome, rfl⟩] at hother
  have hunlike := hother jwt (hsublist.subset hmem) n hseq
  rcases hfirst with hget | ⟨rfl, hup⟩
  · have hne : r.seq ≠ some first := by
      rintro heq
      rw [hseq] at heq
      cases heq
      exact hunlike hget
    rw [if_neg hne]
    obtain ⟨traceId, t, hpresent, ht, rfl⟩ := seenTokens_eq_some_iff.mp hseen
    obtain ⟨b, hb, htrace, hfirst, hfresh⟩ := htable traceId t ht jwt first hget
    exact ⟨b, hb, htrace.trans (traceId_of_present hpresent).symm, hfirst, hfresh⟩
  · rw [if_pos hseq]
    exact hup

/-- The table stays true to what was printed. -/
private theorem tableHolds_emit {writes : Bool} (hsettled : Settled opts s r writes)
    (htable : TableHolds s.traces s.written) :
    TableHolds (emit opts s r writes).traces (emit opts s r writes).written := by
  have hgrows : ∀ b ∈ s.written, b ∈ (emit opts s r writes).written := by
    intro b hb
    simp only [emit]
    split
    · split
      · exact List.mem_append_left _ hb
      · exact hb
    · exact hb
  obtain ⟨jwts, hsublist, hfull, hseen', hspec⟩ := @runSteps_spec opts.rendering opts.mode r
    (seenTokens s.traces r) (formatSteps opts.rendering opts.mode r)
  intro traceId' t' ht' jwt n hget
  have htraces : (emit opts s r writes).traces =
      updateTokens s.traces r (markTokens r.number (seenTokens s.traces r) jwts).2 := by
    rw [← hseen']
    rfl
  rw [htraces] at ht'
  cases hseen : seenTokens s.traces r with
  | none =>
    have hsame : (markTokens r.number none jwts).2 = none := by
      cases r.number <;> rfl
    rw [hseen, hsame, updateTokens_none] at ht'
    obtain ⟨b, hb, hblock⟩ := htable traceId' t' ht' jwt n hget
    exact ⟨b, hgrows b hb, hblock⟩
  | some tokens =>
    obtain ⟨traceId, t, hpresent, ht, rfl⟩ := seenTokens_eq_some_iff.mp hseen
    obtain ⟨tokens', htokens', hadded⟩ := get?_markTokens r.number t.tokens jwts
    rw [hseen, htokens', updateTokens_some hpresent ht] at ht'
    have hold {t₀ : Trace} (ht₀ : s.traces.get? traceId' = some t₀)
        (hget₀ : t₀.tokens.get? jwt = some n) :
        ∃ b ∈ (emit opts s r writes).written, b.record.traceId = some traceId' ∧
          b.record.seq = some n ∧ .fresh jwt ∈ b.marks := by
      obtain ⟨b, hb, hblock⟩ := htable traceId' t₀ ht₀ jwt n hget₀
      exact ⟨b, hgrows b hb, hblock⟩
    by_cases htrace : traceId' = traceId
    · subst htrace
      rw [InsertionMap.get?_set_self, Option.some.injEq] at ht'
      subst ht'
      rcases hadded jwt n hget with hget₀ | ⟨hseq, hmem, hnone⟩
      · exact hold ht hget₀
      · have hpretty := pretty_of_mem hfull hmem
        have hcase := hsettled t.tokens hpretty hseen
        split at hcase
        · next hprinted =>
          obtain ⟨hsome, hwrites⟩ := hprinted
          rw [← hseen] at hsome
          obtain ⟨lines, hlines⟩ := Option.isSome_iff_exists.mp hsome
          refine ⟨⟨r, lines⟩, ?_, traceId_of_present hpresent, seq_of_number hseq, ?_⟩
          · simp [emit, hlines, hwrites]
          · have hmarks := hspec lines hlines
            rw [hseen, hseq] at hmarks
            have hfresh : Mark.fresh jwt ∈ marksOf lines := by
              rw [hmarks]
              exact Mark.fresh_mem_markAll_iff.mpr ⟨hmem, hnone⟩
            exact hfresh
        · have hsome := hcase jwt (hsublist.subset hmem)
          rw [hnone] at hsome
          cases hsome
    · rw [InsertionMap.get?_set_ne _ _ htrace] at ht'
      exact hold ht' hget

end Emit

section Numbers

variable {traces : Traces} {traceId traceId' : String} {t : Trace}

private theorem get?_of_get?_evictTo {limit : Nat}
    (h : (traces.evictTo limit).get? traceId = some t) :
    traces.get? traceId = some t :=
  InsertionMap.get?_eq_some_iff.mpr
    (InsertionMap.entries_evictTo_subset _ _ (InsertionMap.get?_eq_some_iff.mp h))

/-- What the table holds after a call was sent: the next number for its trace, and for another trace
what it held. -/
private theorem get?_nextSeq {sent : Option String}
    (h : (nextSeq traces sent).2.get? traceId = some t) :
    if present sent = some traceId then
      t = ⟨((traces.get? traceId).getD ⟨0, InsertionMap.empty⟩).seq + 1,
        ((traces.get? traceId).getD ⟨0, InsertionMap.empty⟩).tokens⟩
    else traces.get? traceId = some t := by
  unfold nextSeq at h
  split at h
  · next hnone => rwa [if_neg (by simp [hnone])]
  · next traceId' hpresent =>
    have hset : ((traces.erase traceId').set traceId'
        ⟨((traces.get? traceId').getD ⟨0, InsertionMap.empty⟩).seq + 1,
          ((traces.get? traceId').getD ⟨0, InsertionMap.empty⟩).tokens⟩).get? traceId =
        some t := by
      simp only at h
      split at h
      · exact get?_of_get?_evictTo h
      · exact h
    by_cases heq : traceId = traceId'
    · subst heq
      rw [InsertionMap.get?_set_self, Option.some.injEq] at hset
      rw [if_pos hpresent, ← hset]
    · rw [InsertionMap.get?_set_ne _ _ heq, InsertionMap.get?_erase_ne _ heq] at hset
      rw [if_neg (by simp [hpresent, Ne.symm heq])]
      exact hset

/-- The number of a call is the one after the last of its trace. -/
private theorem nextSeq_fst (sent : Option String) :
    (nextSeq traces sent).1 = (present sent).map fun traceId ↦
      ((traces.get? traceId).getD ⟨0, InsertionMap.empty⟩).seq + 1 := by
  unfold nextSeq
  split
  · next hnone => rw [hnone]; rfl
  · next traceId' hpresent => rw [hpresent]; rfl

private theorem size_nextSeq_le {sent : Option String} (h : traces.size ≤ 256) :
    (nextSeq traces sent).2.size ≤ 256 := by
  unfold nextSeq
  split
  · exact h
  · next traceId' _ =>
    simp only
    split
    · have hset := InsertionMap.size_set_le (traces.erase traceId') traceId'
        ⟨((traces.get? traceId').getD ⟨0, InsertionMap.empty⟩).seq + 1,
          ((traces.get? traceId').getD ⟨0, InsertionMap.empty⟩).tokens⟩
      have herase : (traces.erase traceId').size ≤ traces.size :=
        InsertionMap.size_filter_le _ _
      rw [InsertionMap.size_evictTo]
      omega
    · omega

private theorem size_updateTokens {r : WireRecord} {seen : Option Tokens} :
    (updateTokens traces r seen).size = traces.size := by
  unfold updateTokens
  split
  · split
    · next t ht =>
      rw [InsertionMap.size, InsertionMap.entries_set_of_some ht, List.length_map,
        InsertionMap.size]
    · rfl
  · rfl

/-- Completing a call changes no number and no place in the table. -/
private theorem map_seq_updateTokens {r : WireRecord} {seen : Option Tokens} :
    ((updateTokens traces r seen).get? traceId).map Trace.seq =
      (traces.get? traceId).map Trace.seq := by
  unfold updateTokens
  split
  · next traceId' tokens _ =>
    split
    · next t ht =>
      by_cases heq : traceId = traceId'
      · subst heq
        rw [InsertionMap.get?_set_self, ht]
        rfl
      · rw [InsertionMap.get?_set_ne _ _ heq]
    · rfl
  · rfl

end Numbers

/-- The numbers of the calls of a trace, in the order in which they were sent. -/
def numbersOf (traceId : String) (s : State) : List (Option Nat) :=
  (s.calls.filter fun r ↦ r.traceId = some traceId).map WireRecord.seq

/-- A call of the trace is sent. -/
def Event.sendsTo (traceId : String) : Event → Bool
  | .send q => q.traceId = some traceId
  | .complete .. => false

section Runs

variable {opts : WireLogOptions} {es es' : List Event} {traceId : String}

/-- A call that completes twice, or was not sent, changes nothing; one that completes is emitted. -/
private theorem step_complete_cases {s : State} {call : Nat} {requestBody : Option String}
    {ms : Int} {outcome : Outcome} {writes : Bool} :
    step opts s (.complete call requestBody ms outcome writes) = s ∨
      ∃ base, s.calls[call]? = some base ∧ call ∉ s.emitted ∧
        step opts s (.complete call requestBody ms outcome writes) =
          emit opts { s with emitted := call :: s.emitted }
            (completeRecord base requestBody ms outcome) writes := by
  simp only [step]
  split
  · exact Or.inl rfl
  · next base hbase =>
    split
    · exact Or.inl rfl
    · next hcall => exact Or.inr ⟨base, hbase, hcall, rfl⟩

/-- The table never holds more than 256 traces. -/
theorem size_traces_le (es : List Event) : ((wrapFetch opts).run es).traces.size ≤ 256 := by
  apply (wrapFetch opts).run_invariant (I := fun s ↦ s.traces.size ≤ 256)
  · exact Nat.zero_le _
  · intro s e hs
    cases e with
    | send q => exact size_nextSeq_le hs
    | complete call requestBody ms outcome writes =>
      show (step opts s _).traces.size ≤ 256
      rcases @step_complete_cases opts s call requestBody ms outcome writes with
        hsame | ⟨base, -, -, hemit⟩
      · rw [hsame]
        exact hs
      · rw [hemit]
        show (updateTokens s.traces _ _).size ≤ 256
        rw [size_updateTokens]
        exact hs

/-- A call that completes changes no numbers. -/
private theorem numbers_step_complete {s : State} {call : Nat} {requestBody : Option String}
    {ms : Int} {outcome : Outcome} {writes : Bool} :
    numbersOf traceId (step opts s (.complete call requestBody ms outcome writes)) =
        numbersOf traceId s ∧
      ((step opts s (.complete call requestBody ms outcome writes)).traces.get? traceId).map
          Trace.seq = (s.traces.get? traceId).map Trace.seq := by
  rcases @step_complete_cases opts s call requestBody ms outcome writes with
    hsame | ⟨base, -, -, hemit⟩
  · rw [hsame]
    exact ⟨rfl, rfl⟩
  · rw [hemit]
    exact ⟨rfl, map_seq_updateTokens⟩

/-- The last number of a trace that the table holds. -/
private def lastNumber (traceId : String) (s : State) : Nat :=
  ((s.traces.get? traceId).map Trace.seq).getD 0

private theorem present_of_sends (hne : traceId ≠ "") {q : Request}
    (hsend : q.traceId = some traceId) : present q.traceId = some traceId := by
  rw [hsend, present, Option.filter_some, if_pos (decide_eq_true hne)]

/-- A call that is sent gets the number after the last of its trace. -/
private theorem numbers_step_send (hne : traceId ≠ "") {s : State} {q : Request}
    (hsend : q.traceId = some traceId) :
    numbersOf traceId (step opts s (.send q)) =
      numbersOf traceId s ++ [some (lastNumber traceId s + 1)] := by
  have hpresent := present_of_sends hne hsend
  have hseq : (nextSeq s.traces q.traceId).1 =
      some (lastNumber traceId s + 1) := by
    rw [nextSeq_fst, hpresent, Option.map_some, lastNumber]
    cases s.traces.get? traceId with
    | none => rfl
    | some t => rfl
  simp [numbersOf, step, List.filter_append, baseRecord, hsend, ← hseq]

/-- A trace that the table holds after a call was sent has the number of that call, or the one that
it had. -/
private theorem lastNumber_step_send (hne : traceId ≠ "") {s : State} {q : Request}
    (hkept : ((step opts s (.send q)).traces.get? traceId).isSome = true) :
    lastNumber traceId (step opts s (.send q)) =
      lastNumber traceId s + if q.traceId = some traceId then 1 else 0 := by
  obtain ⟨t, ht⟩ := Option.isSome_iff_exists.mp hkept
  have hnext := get?_nextSeq ht
  rw [lastNumber, ht, Option.map_some, Option.getD_some]
  by_cases hsend : q.traceId = some traceId
  · rw [if_pos (present_of_sends hne hsend)] at hnext
    rw [if_pos hsend, hnext, lastNumber]
    cases s.traces.get? traceId with
    | none => rfl
    | some t => rfl
  · have hother : present q.traceId ≠ some traceId :=
      fun hpresent ↦ hsend (Option.filter_eq_some_iff.mp hpresent).1
    rw [if_neg hother] at hnext
    rw [if_neg hsend, lastNumber, hnext]
    rfl

/-- As long as a trace is not evicted, its calls are numbered from one in the order in which they
are sent. -/
private theorem numbers_of_kept (hne : traceId ≠ "")
    (hnone : ((wrapFetch opts).run es).traces.get? traceId = none)
    (hkept : ∀ mid, mid <+: es' → 0 < mid.countP (Event.sendsTo traceId) →
      (((wrapFetch opts).run (es ++ mid)).traces.get? traceId).isSome = true) :
    numbersOf traceId ((wrapFetch opts).run (es ++ es')) =
        numbersOf traceId ((wrapFetch opts).run es) ++
          (List.range' 1 (es'.countP (Event.sendsTo traceId))).map some ∧
      lastNumber traceId ((wrapFetch opts).run (es ++ es')) =
        es'.countP (Event.sendsTo traceId) := by
  induction es' using List.reverseRecOn with
  | nil => simp [hnone, lastNumber]
  | append_singleton es' e ih =>
    obtain ⟨hnumbers, hlast⟩ := ih fun mid hmid ↦ hkept mid (hmid.trans (List.prefix_append _ _))
    have hhere := hkept (es' ++ [e]) (List.prefix_refl _)
    rw [← List.append_assoc, Machine.run_concat] at hhere ⊢
    generalize (wrapFetch opts).run (es ++ es') = s at hnumbers hlast hhere ⊢
    have hstep : ((wrapFetch opts).step s e).1 = step opts s e := rfl
    rw [hstep, List.countP_append, List.countP_singleton] at hhere ⊢
    cases e with
    | complete call requestBody ms outcome writes =>
      obtain ⟨hsame, hseq⟩ :=
        @numbers_step_complete opts traceId s call requestBody ms outcome writes
      rw [hsame, hnumbers, lastNumber, hseq]
      exact ⟨rfl, hlast⟩
    | send q =>
      by_cases hsend : q.traceId = some traceId
      · have hcount : (Event.send q).sendsTo traceId = true := decide_eq_true hsend
        rw [if_pos hcount] at hhere ⊢
        rw [numbers_step_send hne hsend, lastNumber_step_send hne (hhere (Nat.succ_pos _)),
          if_pos hsend, hnumbers, hlast, List.range'_1_concat, List.map_append, List.append_assoc,
          Nat.add_comm 1]
        exact ⟨rfl, rfl⟩
      · have hcount : (Event.send q).sendsTo traceId ≠ true :=
          fun h ↦ hsend (of_decide_eq_true h)
        rw [if_neg hcount] at hhere ⊢
        have hsame : numbersOf traceId (step opts s (.send q)) = numbersOf traceId s := by
          simp [numbersOf, step, List.filter_append, baseRecord, hsend]
        rw [hsame, hnumbers]
        refine ⟨rfl, ?_⟩
        by_cases hsome : ((step opts s (.send q)).traces.get? traceId).isSome = true
        · rw [lastNumber_step_send hne hsome, if_neg hsend, hlast]
        · have hzero : es'.countP (Event.sendsTo traceId) = 0 :=
            Nat.eq_zero_of_not_pos fun hpos ↦ hsome (hhere (Nat.lt_add_right 0 hpos))
          rw [lastNumber, Option.not_isSome_iff_eq_none.mp hsome, hzero]
          rfl

private theorem tableHolds_send {s : State} {q : Request} (h : TableHolds s.traces s.written) :
    TableHolds (step opts s (.send q)).traces (step opts s (.send q)).written := by
  intro traceId t ht jwt n hget
  have hnext := get?_nextSeq ht
  split at hnext
  · cases hold : s.traces.get? traceId with
    | none =>
      rw [hold] at hnext
      rw [hnext] at hget
      cases hget
    | some t₀ =>
      rw [hold] at hnext
      rw [hnext] at hget
      exact h traceId t₀ hold jwt n hget
  · exact h traceId t hnext jwt n hget

/-- Settled completions keep the table true to what was printed, and print true references. -/
private theorem tableHolds_run (h : (wrapFetch opts).Along (Undisturbed opts) es) :
    TableHolds ((wrapFetch opts).run es).traces ((wrapFetch opts).run es).written ∧
      AtEach ReferencesHold ((wrapFetch opts).run es).written := by
  apply (wrapFetch opts).run_induction_along (C := Undisturbed opts)
    (P := fun _ s ↦ TableHolds s.traces s.written ∧ AtEach ReferencesHold s.written) _ _ es h
  · constructor
    · intro traceId t ht
      cases ht
    · exact atEach_nil _
  · rintro es e hcond ⟨htable, hrefs⟩
    generalize (wrapFetch opts).run es = s at hcond htable hrefs ⊢
    cases e with
    | send q => exact ⟨tableHolds_send htable, hrefs⟩
    | complete call requestBody ms outcome writes =>
      show TableHolds (step opts s _).traces (step opts s _).written ∧
        AtEach ReferencesHold (step opts s _).written
      rcases @step_complete_cases opts s call requestBody ms outcome writes with
        hsame | ⟨base, hbase, hcall, hemit⟩
      · rw [hsame]
        exact ⟨htable, hrefs⟩
      · rw [hemit]
        have hsettled := hcond base hbase hcall
        refine ⟨@tableHolds_emit opts { s with emitted := call :: s.emitted } _ _ hsettled htable,
          ?_⟩
        simp only [emit]
        split
        · next lines hlines =>
          split
          · next hwrites =>
            subst hwrites
            rw [atEach_concat]
            exact ⟨hrefs, referencesHold_emit hsettled htable hlines⟩
          · exact hrefs
        · exact hrefs

/-- The table keeps its bound, the calls of a trace are numbered from one in the order in which they
are sent as long as it is not evicted, and as long as completed calls are settled each reference in
a block is to a place where the token was expanded. -/
theorem wireLog_numbering (opts : WireLogOptions) :
    (∀ es, ((wrapFetch opts).run es).traces.size ≤ 256) ∧
    (∀ es es' traceId, traceId ≠ "" → ((wrapFetch opts).run es).traces.get? traceId = none →
      (∀ mid, mid <+: es' → 0 < mid.countP (Event.sendsTo traceId) →
        (((wrapFetch opts).run (es ++ mid)).traces.get? traceId).isSome = true) →
      numbersOf traceId ((wrapFetch opts).run (es ++ es')) =
        numbersOf traceId ((wrapFetch opts).run es) ++
          (List.range' 1 (es'.countP (Event.sendsTo traceId))).map some) ∧
    ∀ es, (wrapFetch opts).Along (Undisturbed opts) es →
      AtEach ReferencesHold ((wrapFetch opts).run es).written := by
  refine ⟨size_traces_le, ?_, ?_⟩
  · intro es es' traceId hne hnone hkept
    exact (numbers_of_kept hne hnone hkept).1
  · intro es h
    exact (tableHolds_run h).2

end Runs

section Sample

private def sampleToken : String := "eyJhbGciOiJSUzI1NiJ9.eyJzdWIiOiJhbGljZSJ9.sig"

private def sampleRendering : Rendering where
  headline r := some (r.method ++ " /")
  renderBody body _ _ := some [body]
  jwtLines _ _ := some ["│     sub  alice"]

private def sampleOptions : WireLogOptions := ⟨"agent-copilot", .pretty, sampleRendering⟩

private def sampleRequest : Request where
  sentAt := "2026-01-01T00:00:00.000Z"
  traceId := some "t4"
  spanId := some "s"
  method := "GET"
  url := "http://x/"
  requestHeaders := [("authorization", "DPoP eyJhbGciOiJSUzI1NiJ9.eyJzdWIiOiJhbGljZSJ9.sig")]

private def sampleComplete (call : Nat) (writes : Bool) : Event :=
  .complete call none 1 (.response 200 "OK" [] "") writes

/-- Two calls with one token, whose blocks are both printed. -/
private def sampleRun : List Event :=
  [.send sampleRequest, sampleComplete 0 true, .send sampleRequest, sampleComplete 1 true]

private theorem sampleRun_undisturbed :
    (wrapFetch sampleOptions).Along (Undisturbed sampleOptions) sampleRun := by
  have hsplit : sampleRun = ((([] ++ [.send sampleRequest]) ++ [sampleComplete 0 true]) ++
      [.send sampleRequest]) ++ [sampleComplete 1 true] := rfl
  rw [hsplit]
  simp only [Machine.along_concat]
  refine ⟨⟨⟨⟨Machine.along_nil _ _, trivial⟩, ?_⟩, trivial⟩, ?_⟩
  · intro base hbase _ tokens _ htokens
    cases hbase
    cases htokens
    rw [if_pos ⟨rfl, rfl⟩]
    intro jwt _ n _ hget
    cases hget
  · intro base hbase _ tokens _ htokens
    cases hbase
    cases htokens
    rw [if_pos ⟨rfl, rfl⟩]
    intro jwt hjwt n hn hget
    have htoken : jwt = sampleToken := List.mem_singleton.mp hjwt
    subst htoken
    cases hn
    cases hget

private theorem sampleRun_kept {mid : List Event} (hmid : mid <+: sampleRun)
    (hpos : 0 < mid.countP (Event.sendsTo "t4")) :
    (((wrapFetch sampleOptions).run ([] ++ mid)).traces.get? "t4").isSome = true := by
  have hmem : mid ∈ sampleRun.inits := (List.mem_inits _ _).mpr hmid
  have hinits : sampleRun.inits = [[], [.send sampleRequest],
      [.send sampleRequest, sampleComplete 0 true],
      [.send sampleRequest, sampleComplete 0 true, .send sampleRequest], sampleRun] := rfl
  rw [hinits] at hmem
  simp only [List.mem_cons, List.not_mem_nil, or_false] at hmem
  rcases hmem with rfl | rfl | rfl | rfl | rfl
  · cases hpos
  · rfl
  · rfl
  · rfl
  · rfl

/-- The statement is about a block that refers to another one. -/
theorem wireLog_numbering_sample :
    ((wrapFetch sampleOptions).run sampleRun).traces.size ≤ 256 ∧
    numbersOf "t4" ((wrapFetch sampleOptions).run ([] ++ sampleRun)) =
      numbersOf "t4" ((wrapFetch sampleOptions).run []) ++
        (List.range' 1 (sampleRun.countP (Event.sendsTo "t4"))).map some ∧
    AtEach ReferencesHold ((wrapFetch sampleOptions).run sampleRun).written :=
  ⟨(wireLog_numbering sampleOptions).1 sampleRun,
    (wireLog_numbering sampleOptions).2.1 [] sampleRun "t4" (by decide) rfl fun mid hmid hpos ↦
      sampleRun_kept hmid hpos,
    (wireLog_numbering sampleOptions).2.2 sampleRun sampleRun_undisturbed⟩

/-- A token that a block recorded before it failed to be written is referred to all the same. -/
theorem reference_to_unwritten_block :
    ¬ ∀ opts : WireLogOptions,
      (∀ es, ((wrapFetch opts).run es).traces.size ≤ 256) ∧
      (∀ es es' traceId, traceId ≠ "" → ((wrapFetch opts).run es).traces.get? traceId = none →
        (∀ mid, mid <+: es' → 0 < mid.countP (Event.sendsTo traceId) →
          (((wrapFetch opts).run (es ++ mid)).traces.get? traceId).isSome = true) →
        numbersOf traceId ((wrapFetch opts).run (es ++ es')) =
          numbersOf traceId ((wrapFetch opts).run es) ++
            (List.range' 1 (es'.countP (Event.sendsTo traceId))).map some) ∧
      ∀ es, AtEach ReferencesHold ((wrapFetch opts).run es).written := by
  intro h
  have hlost : ∃ b, ((wrapFetch sampleOptions).run
      [.send sampleRequest, sampleComplete 0 false, .send sampleRequest,
        sampleComplete 1 true]).written = [b] ∧
      b.marks = [.same sampleToken 1] ∧ b.record.seq = some 2 :=
    ⟨_, rfl, rfl, rfl⟩
  obtain ⟨b, hwritten, hmarks, hseq⟩ := hlost
  have hall := (h sampleOptions).2.2
    [.send sampleRequest, sampleComplete 0 false, .send sampleRequest, sampleComplete 1 true]
  rw [hwritten] at hall
  have hrefs := hall [] b (List.prefix_refl _)
  have hreference := hrefs [] [] sampleToken 1 hmarks
  rw [if_neg (by rw [hseq]; decide)] at hreference
  obtain ⟨b', hb', -⟩ := hreference
  cases hb'

end Sample

end AgentsAuth.Otel
