import AgentsAuth.AuthCurity.Verify
import AgentsAuth.Lib.Fallible
import AgentsAuth.Lib.InsertionMap

/-!
# Roles of a tool

The table of `apps/mcp-ops/src/config.ts` that says which roles may call a tool, read from a text
of `tool=role role` entries, and the gate of `apps/mcp-ops/src/mcp.ts` that looks a tool up in it.
A tool without an entry is open to every caller, so an entry that is read and not kept is a gate
that is lost.
-/

namespace AgentsAuth.Api.McpOps

open AgentsAuth.AuthCurity AgentsAuth.Base AgentsAuth.Lib

/-- `Config.toolRequiredRoles`: the own properties of the object. -/
abbrev ToolRoles := InsertionMap String (List String)

/-- `DEFAULT_TOOL_REQUIRED_ROLES` of `config.ts:45–49`. -/
def defaultToolRequiredRoles : ToolRoles :=
  ((InsertionMap.empty.set "restart_deployment" ["sre", "oncall"]).set
    "scale_deployment" ["sre", "oncall"]).set "set_deployment_image" ["sre"]

/-- The characters of the class `[\s|]`. -/
def roleSeparator (c : Char) : Bool := isSpace c || c = '|'

/-- `tool` of `config.ts:65`. -/
def entryTool (trimmed : String) : String :=
  if '=' ∈ trimmed.toList then trim (String.ofList (trimmed.toList.takeWhile (· ≠ '='))) else ""

/-- `roles` of `config.ts:66`. -/
def entryRoles (trimmed : String) : List String :=
  if '=' ∈ trimmed.toList then
    wordsBy roleSeparator (String.ofList ((trimmed.toList.dropWhile (· ≠ '=')).drop 1))
  else []

/-- The message of `config.ts:69`. -/
def malformedEntry (trimmed : String) : String :=
  "TOOL_REQUIRED_ROLES: malformed entry \"" ++ trimmed ++
    "\" — expected \"tool=role role\" (roles separated by whitespace or |)"

/-- `out[tool] = roles`: an object takes `__proto__` for its prototype and gets no property. -/
def assign (out : ToolRoles) (tool : String) (roles : List String) : ToolRoles :=
  if tool = "__proto__" then out else out.set tool roles

/-- The body of the loop of `config.ts:61–73`. -/
def addEntry (out : ToolRoles) (entry : String) : Except String ToolRoles :=
  let trimmed := trim entry
  if trimmed = "" then .ok out
  else if entryTool trimmed = "" ∨ entryRoles trimmed = [] then .error (malformedEntry trimmed)
  else .ok (assign out (entryTool trimmed) (entryRoles trimmed))

/-- Model of `parseToolRequiredRoles`, `config.ts:57–75`. -/
def parseToolRequiredRoles : Option String → Except String ToolRoles
  | none => .ok defaultToolRequiredRoles
  | some raw =>
    if trim raw = "" then .ok defaultToolRequiredRoles
    else (piecesBy (· = ',') raw).foldlM addEntry InsertionMap.empty

/-- Model of `toolRoleDenial`, `mcp.ts:46–53`. -/
def toolRoleDenial (tool : String) (callerRoles requiredRoles : List String) : Option String :=
  if requiredRoles = [] then none
  else if requiredRoles.any callerRoles.contains then none
  else
    some ("calling " ++ tool ++ " requires one of these roles: " ++
      ", ".intercalate requiredRoles ++ "; you have: " ++
      if callerRoles = [] then "(none)" else ", ".intercalate callerRoles)

/-- `cfg.toolRequiredRoles[tool] ?? []`. -/
def requiredRoles (toolRequiredRoles : ToolRoles) (tool : String) : List String :=
  (toolRequiredRoles.get? tool).getD []

/-- The text of `roleGate`, `mcp.ts:66–73`, before it is written as JSON. -/
def roleGate (toolRequiredRoles : ToolRoles) (subjectRoles : List String) (tool : String) :
    Option Json :=
  (toolRoleDenial tool subjectRoles (requiredRoles toolRequiredRoles tool)).map fun denial ↦
    .obj [("error", .str "forbidden"), ("message", .str denial)]

/-- The entries of a text: what stands between commas, without the blank ones. -/
def entriesOf (raw : String) : List String :=
  ((piecesBy (· = ',') raw).map trim).filter (· ≠ "")

/-- An entry that names no tool or no roles. -/
def Malformed (entry : String) : Prop := entryTool entry = "" ∨ entryRoles entry = []

instance (entry : String) : Decidable (Malformed entry) := inferInstanceAs (Decidable (_ ∨ _))

/-- A table has every entry of a text with its own roles. -/
structure Gated (raw : String) (table : ToolRoles) : Prop where
  nonempty : table.entries ≠ []
  roles : ∀ entry ∈ entriesOf raw, entryRoles entry ≠ []
  own : ∀ entry ∈ entriesOf raw, table.get? (entryTool entry) = some (entryRoles entry)

/-- A text has an entry, names nothing that an object cannot have as a property, and says the same
of a tool wherever it names it. -/
structure Unambiguous (raw : String) : Prop where
  nonempty : entriesOf raw ≠ []
  property : ∀ entry ∈ entriesOf raw, entryTool entry ≠ "__proto__"
  once : ∀ entry ∈ entriesOf raw, ∀ other ∈ entriesOf raw,
    entryTool entry = entryTool other → entryRoles entry = entryRoles other

/-- One `tool=role role` entry. -/
def renderEntry (e : String × List String) : String := e.1 ++ "=" ++ " ".intercalate e.2

/-- A table as a text that `parseToolRequiredRoles` documents. -/
def render (table : ToolRoles) : String := ",".intercalate (table.entries.map renderEntry)

/-- A name that can be written before an equals sign. -/
structure ToolName (name : String) : Prop where
  comma : ',' ∉ name.toList
  equals : '=' ∉ name.toList
  trimmed : trim name = name

/-- A role that can be written in a list of them. -/
structure RoleName (role : String) : Prop where
  comma : ',' ∉ role.toList
  separator : ∀ c ∈ role.toList, roleSeparator c = false

/-- A table that can be written: its names and roles have no separators in them. -/
structure Writable (table : ToolRoles) : Prop where
  names : ∀ e ∈ table.entries, ToolName e.1
  nonempty : ∀ e ∈ table.entries, e.2 ≠ []
  roles : ∀ e ∈ table.entries, ∀ role ∈ e.2, RoleName role

/-- A table with an entry, and no empty name, no empty role and no prototype among its entries. -/
structure Named (table : ToolRoles) : Prop where
  nonempty : table.entries ≠ []
  tool : ∀ e ∈ table.entries, e.1 ≠ ""
  property : ∀ e ∈ table.entries, e.1 ≠ "__proto__"
  roles : ∀ e ∈ table.entries, ∀ role ∈ e.2, role ≠ ""

/-- A caller passes the gate of a tool that asks for nothing or with one of its roles. -/
theorem toolRoleDenial_eq_none_iff {tool : String} {callerRoles required : List String} :
    toolRoleDenial tool callerRoles required = none ↔
      required = [] ∨ ∃ role ∈ required, role ∈ callerRoles := by
  rw [toolRoleDenial]
  by_cases hrequired : required = []
  · simp [hrequired]
  · rw [if_neg hrequired, or_iff_right hrequired]
    split
    · next h => simpa using h
    · next h => simpa using h

section Parse

variable {raw tool : String} {roles : List String} {out table : ToolRoles}

/-- The table after some entries, in their order. -/
def assignAll (out : ToolRoles) (entries : List String) : ToolRoles :=
  entries.foldl (fun out entry ↦ assign out (entryTool entry) (entryRoles entry)) out

private theorem assignAll_cons (out : ToolRoles) (entry : String) (entries : List String) :
    assignAll out (entry :: entries) =
      assignAll (assign out (entryTool entry) (entryRoles entry)) entries := by
  rw [assignAll, List.foldl_cons]
  rfl

private theorem assignAll_concat (out : ToolRoles) (entries : List String) (entry : String) :
    assignAll out (entries ++ [entry]) =
      assign (assignAll out entries) (entryTool entry) (entryRoles entry) := by
  rw [assignAll, List.foldl_append]
  rfl

/-- An assignment gives a tool its roles. -/
theorem get?_assign_self (h : tool ≠ "__proto__") :
    (assign out tool roles).get? tool = some roles := by
  rw [assign, if_neg h, InsertionMap.get?_set_self]

/-- An assignment leaves the other tools alone. -/
theorem get?_assign_ne {name : String} (h : name ≠ tool) :
    (assign out tool roles).get? name = out.get? name := by
  rw [assign]
  split
  · rfl
  · exact InsertionMap.get?_set_ne out roles h

/-- No assignment makes a prototype a tool. -/
theorem get?_proto_assign : (assign out tool roles).get? "__proto__" = out.get? "__proto__" := by
  by_cases h : tool = "__proto__"
  · rw [assign, if_pos h]
  · exact get?_assign_ne (Ne.symm h)

/-- An assignment keeps what holds of every entry. -/
theorem forall_assign {P : String → List String → Prop} (hout : out.Forall P)
    (h : tool ≠ "__proto__" → P tool roles) : (assign out tool roles).Forall P := by
  rw [assign]
  split
  · exact hout
  · next hproto => exact hout.set (h hproto)

private theorem addEntry_eq_ok_iff {piece : String} :
    addEntry out piece = .ok table ↔
      trim piece = "" ∧ table = out ∨
        trim piece ≠ "" ∧ ¬Malformed (trim piece) ∧
          table = assign out (entryTool (trim piece)) (entryRoles (trim piece)) := by
  rw [addEntry, Malformed]
  by_cases hblank : trim piece = ""
  · rw [if_pos hblank, Except.ok.injEq]
    simp only [hblank, true_and, ne_eq, not_true_eq_false, false_and, or_false]
    exact eq_comm
  · rw [if_neg hblank]
    by_cases hbad : entryTool (trim piece) = "" ∨ entryRoles (trim piece) = []
    · rw [if_pos hbad]
      simp [hblank, hbad]
    · rw [if_neg hbad, Except.ok.injEq]
      simp only [hblank, hbad, false_and, ne_eq, not_false_eq_true, true_and, false_or]
      exact eq_comm

private theorem foldlM_addEntry_eq_ok_iff {pieces : List String} :
    pieces.foldlM addEntry out = .ok table ↔
      (∀ entry ∈ (pieces.map trim).filter (· ≠ ""), ¬Malformed entry) ∧
        table = assignAll out ((pieces.map trim).filter (· ≠ "")) := by
  induction pieces generalizing out with
  | nil =>
    constructor
    · intro h
      cases h
      exact ⟨by simp, rfl⟩
    · rintro ⟨-, rfl⟩
      rfl
  | cons piece pieces ih =>
    rw [List.foldlM_cons, bind_eq_ok_iff, List.map_cons]
    simp only [ih, addEntry_eq_ok_iff]
    by_cases hblank : trim piece = ""
    · rw [List.filter_cons_of_neg (by simpa using hblank)]
      simp [hblank]
    · rw [List.filter_cons_of_pos (by simpa using hblank), List.forall_mem_cons, assignAll_cons]
      constructor
      · rintro ⟨mid, ⟨hempty, -⟩ | ⟨-, hgood, hmid⟩, hall, htable⟩
        · exact absurd hempty hblank
        · rw [hmid] at htable
          exact ⟨⟨hgood, hall⟩, htable⟩
      · rintro ⟨⟨hgood, hall⟩, rfl⟩
        exact ⟨assign out (entryTool (trim piece)) (entryRoles (trim piece)),
          Or.inr ⟨hblank, hgood, rfl⟩, hall, rfl⟩

/-- A text that is not blank is parsed when none of its entries is malformed, and is then the
assignments of its entries. -/
theorem parseToolRequiredRoles_eq_ok_iff (h : trim raw ≠ "") :
    parseToolRequiredRoles (some raw) = .ok table ↔
      (∀ entry ∈ entriesOf raw, ¬Malformed entry) ∧
        table = assignAll InsertionMap.empty (entriesOf raw) := by
  rw [parseToolRequiredRoles, if_neg h, foldlM_addEntry_eq_ok_iff]
  rfl

private theorem get?_proto_assignAll (entries : List String) :
    (assignAll out entries).get? "__proto__" = out.get? "__proto__" := by
  induction entries using List.reverseRecOn with
  | nil => rfl
  | append_singleton entries entry ih => rw [assignAll_concat, get?_proto_assign, ih]

private theorem forall_assignAll {P : String → List String → Prop} {entries : List String}
    (hout : out.Forall P)
    (h : ∀ entry ∈ entries, entryTool entry ≠ "__proto__" →
      P (entryTool entry) (entryRoles entry)) : (assignAll out entries).Forall P := by
  induction entries using List.reverseRecOn with
  | nil => exact hout
  | append_singleton entries entry ih =>
    rw [assignAll_concat]
    apply forall_assign
    · exact ih fun e he ↦ h e (List.mem_append_left _ he)
    · exact h entry (by simp)

/-- The last entry of a tool is the one that counts, so all of them do when they say the same. -/
private theorem get?_assignAll {entries : List String}
    (hproperty : ∀ entry ∈ entries, entryTool entry ≠ "__proto__")
    (honce : ∀ entry ∈ entries, ∀ other ∈ entries,
      entryTool entry = entryTool other → entryRoles entry = entryRoles other) :
    ∀ entry ∈ entries,
      (assignAll out entries).get? (entryTool entry) = some (entryRoles entry) := by
  induction entries using List.reverseRecOn with
  | nil => simp
  | append_singleton entries last ih =>
    intro entry hentry
    have hlast : last ∈ entries ++ [last] := by simp
    rw [assignAll_concat]
    by_cases htool : entryTool entry = entryTool last
    · rw [htool, get?_assign_self (hproperty last hlast), honce entry hentry last hlast htool]
    · rw [get?_assign_ne htool]
      apply ih
      · exact fun e he ↦ hproperty e (List.mem_append_left _ he)
      · exact fun e he o ho ↦
          honce e (List.mem_append_left _ he) o (List.mem_append_left _ ho)
      · rcases List.mem_append.mp hentry with hmem | hmem
        · exact hmem
        · rw [List.mem_singleton] at hmem
          exact absurd (congrArg entryTool hmem) htool

/-- The assignments of well-formed entries keep every gate when the text is unambiguous. -/
private theorem gated_assignAll_iff (h : ∀ entry ∈ entriesOf raw, ¬Malformed entry) :
    Gated raw (assignAll InsertionMap.empty (entriesOf raw)) ↔ Unambiguous raw := by
  constructor
  · rintro ⟨hnonempty, -, hown⟩
    constructor
    · intro hnone
      rw [hnone] at hnonempty
      exact hnonempty rfl
    · intro entry hentry hproto
      have hget := hown entry hentry
      rw [hproto, get?_proto_assignAll] at hget
      cases hget
    · intro entry hentry other hother htool
      have hget := hown entry hentry
      rw [htool, hown other hother] at hget
      exact (Option.some.inj hget).symm
  · rintro ⟨hnonempty, hproperty, honce⟩
    have hown := @get?_assignAll InsertionMap.empty _ hproperty honce
    refine ⟨?_, fun entry hentry hroles ↦ h entry hentry (Or.inr hroles), hown⟩
    obtain ⟨entry, hentry⟩ := List.exists_mem_of_ne_nil _ hnonempty
    exact List.ne_nil_of_mem (InsertionMap.get?_eq_some_iff.mp (hown entry hentry))

/-- A text that is not blank is refused or keeps its gates exactly when an entry of it is malformed
or its entries are unambiguous. -/
private theorem gated_iff (hraw : trim raw ≠ "") :
    (∀ table, parseToolRequiredRoles (some raw) = .ok table → Gated raw table) ↔
      (∃ entry ∈ entriesOf raw, Malformed entry) ∨ Unambiguous raw := by
  by_cases hbad : ∃ entry ∈ entriesOf raw, Malformed entry
  · simp only [hbad, true_or, iff_true]
    intro table htable
    obtain ⟨entry, hentry, hmalformed⟩ := hbad
    exact absurd hmalformed (((parseToolRequiredRoles_eq_ok_iff hraw).mp htable).1 entry hentry)
  · rw [or_iff_right hbad]
    push Not at hbad
    rw [← gated_assignAll_iff hbad]
    constructor
    · intro h
      exact h _ ((parseToolRequiredRoles_eq_ok_iff hraw).mpr ⟨hbad, rfl⟩)
    · intro h table htable
      rw [((parseToolRequiredRoles_eq_ok_iff hraw).mp htable).2]
      exact h

end Parse

section Render

variable {name rest : String} {e : String × List String} {table : ToolRoles}

private theorem toList_prefixed :
    (name ++ "=" ++ rest).toList = name.toList ++ '=' :: rest.toList := by
  simp

private theorem takeWhile_ne_append {cs : List Char} (h : '=' ∉ cs) (ds : List Char) :
    (cs ++ '=' :: ds).takeWhile (· ≠ '=') = cs := by
  rw [List.takeWhile_append_of_pos]
  · simp
  · intro c hc
    simpa using ne_of_mem_of_not_mem hc h

private theorem dropWhile_ne_append {cs : List Char} (h : '=' ∉ cs) (ds : List Char) :
    (cs ++ '=' :: ds).dropWhile (· ≠ '=') = '=' :: ds := by
  rw [List.dropWhile_append_of_pos]
  · simp
  · intro c hc
    simpa using ne_of_mem_of_not_mem hc h

/-- What stands before the first equals sign. -/
private theorem entryTool_prefixed (h : '=' ∉ name.toList) :
    entryTool (name ++ "=" ++ rest) = trim name := by
  rw [entryTool, toList_prefixed, if_pos (by simp), takeWhile_ne_append h, String.ofList_toList]

/-- What stands after the first equals sign. -/
private theorem entryRoles_prefixed (h : '=' ∉ name.toList) :
    entryRoles (name ++ "=" ++ rest) = wordsBy roleSeparator rest := by
  rw [entryRoles, toList_prefixed, if_pos (by simp), dropWhile_ne_append h, List.drop_one,
    List.tail_cons, String.ofList_toList]

/-- Words in a row end as one of them does. -/
private theorem getLast?_intercalate {ws : List String} (hne : ws ≠ [])
    (hws : ∀ w ∈ ws, w ≠ "") :
    ∃ w ∈ ws, (" ".intercalate ws).toList.getLast? = w.toList.getLast? := by
  induction ws with
  | nil => exact absurd rfl hne
  | cons w ws ih =>
    cases ws with
    | nil =>
      rw [String.intercalate_singleton]
      exact ⟨w, by simp, rfl⟩
    | cons w' ws =>
      obtain ⟨v, hv, hlast⟩ :=
        ih (List.cons_ne_nil w' ws) fun x hx ↦ hws x (List.mem_cons_of_mem w hx)
      refine ⟨v, List.mem_cons_of_mem w hv, ?_⟩
      have hne : (" ".intercalate (w' :: ws)).toList ≠ [] := by
        intro hnil
        rw [hnil] at hlast
        have hv' := hws v (List.mem_cons_of_mem w hv)
        exact hv' (by simpa using hlast.symm)
      rw [String.intercalate_cons_cons, String.toList_append, List.getLast?_append_of_ne_nil _ hne,
        hlast]

/-- A character of words in a row is a blank or one of a word. -/
private theorem mem_intercalate {sep : String} {ws : List String} {c : Char}
    (h : c ∈ (sep.intercalate ws).toList) : c ∈ sep.toList ∨ ∃ w ∈ ws, c ∈ w.toList := by
  induction ws with
  | nil => cases h
  | cons w ws ih =>
    cases ws with
    | nil =>
      rw [String.intercalate_singleton] at h
      exact Or.inr ⟨w, by simp, h⟩
    | cons w' ws =>
      rw [String.intercalate_cons_cons, String.toList_append, String.toList_append,
        List.mem_append, List.mem_append] at h
      rcases h with (hw | hsep) | hrest
      · exact Or.inr ⟨w, by simp, hw⟩
      · exact Or.inl hsep
      · rcases ih hrest with hsep | ⟨v, hv, hc⟩
        · exact Or.inl hsep
        · exact Or.inr ⟨v, List.mem_cons_of_mem w hv, hc⟩

private theorem mem_intercalate_of_mem {sep : String} {ws : List String} {w : String} {c : Char}
    (hw : w ∈ ws) (hc : c ∈ w.toList) : c ∈ (sep.intercalate ws).toList := by
  induction ws with
  | nil => cases hw
  | cons v ws ih =>
    cases ws with
    | nil =>
      rw [List.mem_singleton] at hw
      rw [String.intercalate_singleton, ← hw]
      exact hc
    | cons v' ws =>
      rw [String.intercalate_cons_cons, String.toList_append, List.mem_append]
      rcases List.mem_cons.mp hw with rfl | hrest
      · rw [String.toList_append, List.mem_append]
        exact Or.inl (Or.inl hc)
      · exact Or.inr (ih hrest)

/-- An entry that is read back as it was written. -/
structure ReadBack (e : String × List String) : Prop where
  name : ToolName e.1
  tool : e.1 ≠ ""
  nonempty : e.2 ≠ []
  roles : ∀ role ∈ e.2, role ≠ "" ∧ RoleName role

private theorem isSpace_eq_false {c : Char} (h : roleSeparator c = false) : isSpace c = false := by
  rw [roleSeparator, Bool.or_eq_false_iff] at h
  exact h.1

private theorem trim_renderEntry (h : ReadBack e) : trim (renderEntry e) = renderEntry e := by
  have hnonempty : e.1.toList ≠ [] := by simpa using h.tool
  obtain ⟨role, hrole, hlast⟩ :=
    getLast?_intercalate h.nonempty fun role hrole ↦ (h.roles role hrole).1
  have hrole' : role.toList ≠ [] := by simpa using (h.roles role hrole).1
  rw [trim_eq_self_iff, renderEntry, toList_prefixed]
  constructor
  · rw [List.head?_append_of_ne_nil _ hnonempty]
    exact (trim_eq_self_iff.mp h.name.trimmed).1
  · intro c hc
    rw [List.getLast?_append_cons, List.getLast?_cons, hlast] at hc
    apply isSpace_eq_false
    apply (h.roles role hrole).2.separator
    rw [List.getLast?_eq_some_getLast hrole'] at hc
    cases hc
    exact List.getLast_mem hrole'

private theorem entryTool_renderEntry (h : ReadBack e) : entryTool (renderEntry e) = e.1 := by
  rw [renderEntry, entryTool_prefixed h.name.equals, h.name.trimmed]

private theorem entryRoles_renderEntry (h : ReadBack e) : entryRoles (renderEntry e) = e.2 := by
  have hspace : roleSeparator ' ' = true := by decide
  rw [renderEntry, entryRoles_prefixed h.name.equals]
  exact wordsBy_intercalate hspace fun role hrole ↦
    ⟨(h.roles role hrole).1, (h.roles role hrole).2.separator⟩

private theorem comma_not_mem_renderEntry (h : ReadBack e) : ',' ∉ (renderEntry e).toList := by
  rw [renderEntry, toList_prefixed, List.mem_append, List.mem_cons]
  rintro (hname | heq | hroles)
  · exact h.name.comma hname
  · exact absurd heq (by decide)
  · rcases mem_intercalate hroles with hblank | ⟨role, hrole, hc⟩
    · exact absurd hblank (by decide)
    · exact (h.roles role hrole).2.comma hc

private theorem entriesOf_render (hne : table.entries ≠ [])
    (h : ∀ e ∈ table.entries, ReadBack e) :
    entriesOf (render table) = table.entries.map renderEntry := by
  have hfree : ∀ w ∈ table.entries.map renderEntry, ∀ c ∈ w.toList, decide (c = ',') = false := by
    simp only [List.forall_mem_map]
    intro e he c hc
    rw [decide_eq_false_iff_not]
    rintro rfl
    exact comma_not_mem_renderEntry (h e he) hc
  have hpieces : piecesBy (· = ',') (render table) = table.entries.map renderEntry :=
    piecesBy_intercalate (c := ',') (decide_eq_true rfl) (by simpa using hne) hfree
  have htrim : (table.entries.map renderEntry).map trim = table.entries.map renderEntry := by
    rw [List.map_map]
    exact List.map_congr_left fun e he ↦ trim_renderEntry (h e he)
  rw [entriesOf, hpieces, htrim, List.filter_eq_self]
  simp only [List.forall_mem_map, decide_eq_true_eq]
  intro e _ hempty
  have hequals : '=' ∈ (renderEntry e).toList := by
    rw [renderEntry, toList_prefixed]
    simp
  rw [hempty] at hequals
  cases hequals

private theorem trim_render_ne (hne : table.entries ≠ []) : trim (render table) ≠ "" := by
  obtain ⟨e, he⟩ := List.exists_mem_of_ne_nil _ hne
  refine trim_ne_empty_iff.mpr ⟨'=', ?_, by decide⟩
  apply mem_intercalate_of_mem (List.mem_map_of_mem he)
  rw [renderEntry, toList_prefixed]
  simp

/-- Entries of other tools are added in their order. -/
private theorem entries_assignAll {out : ToolRoles} {es : List (String × List String)}
    (h : ∀ e ∈ es, ReadBack e ∧ e.1 ≠ "__proto__")
    (hnodup : ((out.entries ++ es).map Prod.fst).Nodup) :
    (assignAll out (es.map renderEntry)).entries = out.entries ++ es := by
  induction es generalizing out with
  | nil => simp [assignAll]
  | cons e es ih =>
    obtain ⟨hback, hproto⟩ := h e (List.mem_cons_self ..)
    have hfresh : out.get? e.1 = none := by
      rw [InsertionMap.get?_eq_none_iff]
      intro roles hroles
      rw [List.map_append, List.nodup_append] at hnodup
      have hold : e.1 ∈ out.entries.map Prod.fst := List.mem_map.mpr ⟨(e.1, roles), hroles, rfl⟩
      exact hnodup.2.2 e.1 hold e.1 (by simp) rfl
    have hset : (out.set e.1 e.2).entries = out.entries ++ [e] :=
      InsertionMap.entries_set_of_none hfresh
    rw [List.map_cons, assignAll_cons, entryTool_renderEntry hback, entryRoles_renderEntry hback,
      assign, if_neg hproto, ih (fun d hd ↦ h d (List.mem_cons_of_mem e hd)), hset,
      List.append_assoc, List.singleton_append]
    rw [hset, List.append_assoc, List.singleton_append]
    exact hnodup

/-- What a parsed text never has among its entries. -/
private theorem named_of_parse {raw : String} (hraw : trim raw ≠ "")
    (h : parseToolRequiredRoles (some raw) = .ok table) :
    table.Forall fun tool roles ↦
      tool ≠ "" ∧ tool ≠ "__proto__" ∧ ∀ role ∈ roles, role ≠ "" := by
  obtain ⟨hgood, rfl⟩ := (parseToolRequiredRoles_eq_ok_iff hraw).mp h
  refine forall_assignAll (InsertionMap.forall_empty _) ?_
  intro entry hentry hproto
  have hentry := hgood entry hentry
  refine ⟨fun htool ↦ hentry (Or.inl htool), hproto, ?_⟩
  intro role hrole
  rw [entryRoles] at hrole
  split at hrole
  · exact (isWord_of_mem_wordsBy hrole).1
  · cases hrole

/-- A writable table is read back exactly when it has an entry and only proper names in it. -/
private theorem parse_render_iff (h : Writable table) :
    parseToolRequiredRoles (some (render table)) = .ok table ↔ Named table := by
  constructor
  · intro hparse
    by_cases hblank : trim (render table) = ""
    · rw [parseToolRequiredRoles, if_pos hblank] at hparse
      cases hparse
      exact absurd hblank (trim_render_ne (by decide))
    · have hnamed := named_of_parse hblank hparse
      constructor
      · intro hnil
        rw [render, hnil] at hblank
        exact hblank (by decide)
      · exact fun e he ↦ (hnamed e he).1
      · exact fun e he ↦ (hnamed e he).2.1
      · exact fun e he ↦ (hnamed e he).2.2
  · rintro ⟨hne, htool, hproto, hroles⟩
    have hback : ∀ e ∈ table.entries, ReadBack e := by
      intro e he
      exact ⟨h.names e he, htool e he, h.nonempty e he, fun role hrole ↦
        ⟨hroles e he role hrole, h.roles e he role hrole⟩⟩
    rw [parseToolRequiredRoles_eq_ok_iff (trim_render_ne hne), entriesOf_render hne hback]
    constructor
    · simp only [List.forall_mem_map]
      intro e he
      rw [Malformed, entryTool_renderEntry (hback e he), entryRoles_renderEntry (hback e he)]
      simp [htool e he, h.nonempty e he]
    · apply InsertionMap.ext
      have hentries := @entries_assignAll InsertionMap.empty table.entries
        (fun e he ↦ ⟨hback e he, hproto e he⟩) table.nodup
      exact hentries.symm

/-- No gate of a text is lost exactly when one of its entries is malformed, so that it is refused,
or it has an entry, none for `__proto__`, and says the same of a tool wherever it names it; and a
table is read back from its text exactly when it has an entry and only proper names. -/
theorem gatesKept_iff (raw : String) (table : ToolRoles) :
    (trim raw ≠ "" →
      ((∀ table, parseToolRequiredRoles (some raw) = .ok table → Gated raw table) ↔
        (∃ entry ∈ entriesOf raw, Malformed entry) ∨ Unambiguous raw)) ∧
    (Writable table →
      (parseToolRequiredRoles (some (render table)) = .ok table ↔ Named table)) :=
  ⟨fun hraw ↦ gated_iff hraw, fun h ↦ parse_render_iff h⟩

end Render

section Sample

private theorem writable_default : Writable defaultToolRequiredRoles := by
  constructor
  · intro e he
    constructor
    · revert e
      decide
    · revert e
      decide
    · revert e
      decide
  · decide
  · intro e he role hrole
    have hroles : ∀ e ∈ defaultToolRequiredRoles.entries, ∀ role ∈ e.2,
        (role.toList.all fun c ↦ !roleSeparator c) = true := by decide
    constructor
    · revert e role
      decide
    · intro c hc
      rw [← Bool.not_eq_true']
      exact List.all_eq_true.mp (hroles e he role hrole) c hc

private theorem named_default : Named defaultToolRequiredRoles := by
  constructor
  · decide
  · decide
  · decide
  · decide

/-- Two tools with their roles keep their gates, and the default table is read back. -/
theorem gatesKept_iff_sample :
    (∀ table, parseToolRequiredRoles
        (some "set_deployment_image=sre, restart_deployment=sre|oncall") = .ok table →
      Gated "set_deployment_image=sre, restart_deployment=sre|oncall" table) ∧
    parseToolRequiredRoles (some (render defaultToolRequiredRoles)) =
      .ok defaultToolRequiredRoles := by
  have hgates := gatesKept_iff "set_deployment_image=sre, restart_deployment=sre|oncall"
    defaultToolRequiredRoles
  constructor
  · apply (hgates.1 (by decide)).mpr
    right
    constructor
    · decide
    · decide
    · decide
  · exact (hgates.2 writable_default).mpr named_default

/-- A comma alone opens every tool, a second entry of a tool replaces the first one, and an entry
for `__proto__` is dropped. -/
theorem gates_lost :
    (¬ ∀ raw, trim raw ≠ "" → ∀ table, parseToolRequiredRoles (some raw) = .ok table →
      Gated raw table) ∧
    parseToolRequiredRoles (some ",") = .ok InsertionMap.empty ∧
    (∃ table, parseToolRequiredRoles (some "scale_deployment=sre,scale_deployment=oncall") =
      .ok table ∧ table.get? "scale_deployment" = some ["oncall"]) ∧
    parseToolRequiredRoles (some "__proto__=sre") = .ok InsertionMap.empty := by
  have hcomma : parseToolRequiredRoles (some ",") = .ok InsertionMap.empty := by rfl
  have htwice : entriesOf "scale_deployment=sre,scale_deployment=oncall" =
      ["scale_deployment=sre", "scale_deployment=oncall"] := by decide
  have hlast : entryTool "scale_deployment=oncall" = "scale_deployment" ∧
      entryRoles "scale_deployment=oncall" = ["oncall"] := by decide
  have hproto : entriesOf "__proto__=sre" = ["__proto__=sre"] := by decide
  refine ⟨?_, hcomma, ⟨assignAll .empty ["scale_deployment=sre", "scale_deployment=oncall"],
    ?_, ?_⟩, ?_⟩
  · intro h
    exact (h "," (by decide) InsertionMap.empty hcomma).nonempty rfl
  · rw [parseToolRequiredRoles_eq_ok_iff (by decide), htwice]
    exact ⟨by decide, rfl⟩
  · rw [← List.singleton_append, assignAll_concat, hlast.1, hlast.2]
    exact get?_assign_self (by decide)
  · rw [parseToolRequiredRoles_eq_ok_iff (by decide), hproto]
    exact ⟨by decide, by rfl⟩

end Sample

end AgentsAuth.Api.McpOps
