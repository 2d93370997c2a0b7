import AgentsAuth.AuthCurity.Verify

/-!
# The code of a failed verification

`verifyJwt` of `packages/auth-curity/src/verify.ts:66–79` reads from the text of an error of `jose`
which check has failed: it looks for `"exp"` first, then for `iss`, then for `aud`, anywhere in the
text. A claim that is missing is announced by a word that contains `iss`.
-/

namespace AgentsAuth.AuthCurity

open AgentsAuth.Lib

/-- How `jwtVerify` rejects: a claim has another value, is missing or does not pass the check of
its time, or something else about the token or its signature is wrong. -/
inductive JwtFailure where
  | unexpectedValue (claim : String)
  | missingRequired (claim : String)
  | timestampCheck (claim : String)
  | other (text : String)

namespace JwtFailure

/-- The name of a claim as the messages quote it. -/
def quoted (claim : String) : String := "\"" ++ claim ++ "\""

/-- The message of the error. -/
def message : JwtFailure → String
  | unexpectedValue claim => "unexpected" ++ " " ++ (quoted claim ++ " " ++ "claim value")
  | missingRequired claim =>
    "missing" ++ " " ++ ("required" ++ " " ++ (quoted claim ++ " " ++ "claim"))
  | timestampCheck claim => quoted claim ++ " " ++ "claim timestamp check failed"
  | other text => text

/-- The claim whose check has failed. -/
def failedCheck : JwtFailure → Option String
  | unexpectedValue claim => some claim
  | missingRequired claim => some claim
  | timestampCheck claim => some claim
  | other _ => none

/-- The code that names the check of a claim. -/
def checkCode (check : Option String) : CurityAuthErrorCode :=
  if check = some "exp" then .expiredToken
  else if check = some "iss" then .invalidIssuer
  else if check = some "aud" then .invalidAudience
  else .invalidToken

/-- Nothing in the text is taken for the name of a check. -/
def Unremarkable (text : String) : Prop :=
  ∀ part ∈ ["JWTExpired", "\"exp\"", "iss", "aud"], includes text part = false

/-- The message tells the check: one of the three claims is not as expected, or the text has
nothing in it that is taken for their names; a missing claim is told only when it is `exp` or
`iss`. -/
def Told : JwtFailure → Prop
  | unexpectedValue claim => claim ∈ ["exp", "iss", "aud"] ∨ Unremarkable (quoted claim)
  | missingRequired claim => claim ∈ ["exp", "iss"]
  | timestampCheck claim => claim ∈ ["exp", "iss", "aud"] ∨ Unremarkable (quoted claim)
  | other text => Unremarkable text

end JwtFailure

open JwtFailure

section Codes

variable {text claim : String}

/-- The codes in the order in which they are tried. -/
theorem code_verifyError :
    (verifyError text).code =
      if includes text "JWTExpired" || includes text "\"exp\"" then .expiredToken
      else if includes text "iss" then .invalidIssuer
      else if includes text "aud" then .invalidAudience
      else .invalidToken := by
  have hissuer : (includes text "issuer" || includes text "iss") = includes text "iss" := by
    cases h : includes text "issuer" with
    | false => rfl
    | true => rw [includes_trans h (by decide)]; rfl
  have haudience : (includes text "audience" || includes text "aud") = includes text "aud" := by
    cases h : includes text "audience" with
    | false => rfl
    | true => rw [includes_trans h (by decide)]; rfl
  rw [verifyError, hissuer, haudience]
  split
  · rfl
  · split
    · rfl
    · split
      · rfl
      · rfl

/-- No check is named when nothing in the text is taken for one. -/
theorem invalidToken_iff : (verifyError text).code = .invalidToken ↔ Unremarkable text := by
  rw [code_verifyError, Unremarkable]
  simp only [List.forall_mem_cons, List.not_mem_nil, IsEmpty.forall_iff, implies_true, and_true]
  cases includes text "JWTExpired" with
  | true => simp
  | false =>
    cases includes text "\"exp\"" with
    | true => simp
    | false =>
      cases includes text "iss" with
      | true => simp
      | false =>
        cases includes text "aud" with
        | true => simp
        | false => simp

/-- Words that say nothing do not change the code. -/
private theorem code_congr {text' : String}
    (h : ∀ part ∈ ["JWTExpired", "\"exp\"", "iss", "aud"],
      includes text' part = includes text part) :
    (verifyError text').code = (verifyError text).code := by
  simp only [List.forall_mem_cons, List.not_mem_nil, IsEmpty.forall_iff, implies_true,
    and_true] at h
  rw [code_verifyError, code_verifyError, h.1, h.2.1, h.2.2.1, h.2.2.2]

private theorem blank_not_mem_part {part : String}
    (hpart : part ∈ ["JWTExpired", "\"exp\"", "iss", "aud"]) : ' ' ∉ part.toList := by
  revert part
  decide

private theorem code_unexpectedValue :
    (verifyError (unexpectedValue claim).message).code = (verifyError (quoted claim)).code := by
  apply code_congr
  intro part hpart
  have hblank := blank_not_mem_part hpart
  have hwords : includes "unexpected" part = false ∧ includes "claim value" part = false := by
    revert part
    decide
  rw [message, includes_append_blank hblank, includes_append_blank hblank, hwords.1, hwords.2,
    Bool.false_or, Bool.or_false]

private theorem code_timestampCheck :
    (verifyError (timestampCheck claim).message).code = (verifyError (quoted claim)).code := by
  apply code_congr
  intro part hpart
  have hblank := blank_not_mem_part hpart
  have hwords : includes "claim timestamp check failed" part = false := by
    revert part
    decide
  rw [message, includes_append_blank hblank, hwords, Bool.or_false]

/-- Only the two claims that the word `missing` does not hide are told when they are missing. -/
private theorem code_missingRequired :
    (verifyError (missingRequired claim).message).code =
      if includes (quoted claim) "JWTExpired" || includes (quoted claim) "\"exp\"" then
        .expiredToken
      else .invalidIssuer := by
  have hissuer : includes (missingRequired claim).message "iss" = true := by
    rw [message, includes_append_blank (by decide)]
    rfl
  have hexpired : ∀ part ∈ ["JWTExpired", "\"exp\""],
      includes (missingRequired claim).message part = includes (quoted claim) part := by
    intro part hpart
    have hblank : ' ' ∉ part.toList := by
      revert part
      decide
    have hwords : includes "missing" part = false ∧ includes "required" part = false ∧
        includes "claim" part = false := by
      revert part
      decide
    rw [message, includes_append_blank hblank, includes_append_blank hblank,
      includes_append_blank hblank, hwords.1, hwords.2.1, hwords.2.2, Bool.false_or, Bool.false_or,
      Bool.or_false]
  rw [code_verifyError, hissuer, hexpired _ (by simp), hexpired _ (by simp), if_pos rfl]

private theorem code_quoted_iff :
    (verifyError (quoted claim)).code = checkCode (some claim) ↔
      claim ∈ ["exp", "iss", "aud"] ∨ Unremarkable (quoted claim) := by
  by_cases hclaim : claim ∈ ["exp", "iss", "aud"]
  · refine iff_of_true ?_ (Or.inl hclaim)
    revert claim
    decide
  · simp only [List.mem_cons, List.not_mem_nil, or_false, not_or] at hclaim
    obtain ⟨hexp, hiss, haud⟩ := hclaim
    have hcode : checkCode (some claim) = .invalidToken := by
      simp [checkCode, hexp, hiss, haud]
    rw [hcode, invalidToken_iff]
    simp [hexp, hiss, haud]

private theorem code_missing_iff :
    (verifyError (missingRequired claim).message).code = checkCode (some claim) ↔
      claim ∈ ["exp", "iss"] := by
  by_cases hclaim : claim ∈ ["exp", "iss"]
  · refine iff_of_true ?_ hclaim
    rw [code_missingRequired]
    revert claim
    decide
  · refine iff_of_false (fun hcode ↦ ?_) hclaim
    simp only [List.mem_cons, List.not_mem_nil, or_false, not_or] at hclaim
    obtain ⟨hexp, hiss⟩ := hclaim
    have hcode' : checkCode (some claim) = .invalidAudience ∨
        checkCode (some claim) = .invalidToken := by
      by_cases haud : claim = "aud"
      · exact Or.inl (by simp [checkCode, haud])
      · exact Or.inr (by simp [checkCode, hexp, hiss, haud])
    rw [← hcode, code_missingRequired] at hcode'
    split at hcode'
    · simp at hcode'
    · simp at hcode'

/-- The code names the check that has failed exactly when the message tells it. -/
theorem code_message_iff {failure : JwtFailure} :
    (verifyError failure.message).code = checkCode failure.failedCheck ↔ failure.Told := by
  cases failure with
  | unexpectedValue claim =>
    rw [code_unexpectedValue]
    exact code_quoted_iff
  | missingRequired claim => exact code_missing_iff
  | timestampCheck claim =>
    rw [code_timestampCheck]
    exact code_quoted_iff
  | other text => exact invalidToken_iff

end Codes

/-- The error that `verifyJwt` throws for a rejection names the check that has failed exactly when
the message tells it. -/
theorem verifyJwt_code_iff {jose : Jose} {token jwksUri : String} {opts : VerifyJwtOptions}
    {failure : JwtFailure} (huri : opts.jwksUri = some jwksUri) (hne : jwksUri ≠ "")
    (h : jose.jwtVerify token ⟨opts.issuer, opts.audience, jwksUri,
      opts.algorithms.getD ["RS256", "ES256"], opts.clockToleranceSec.getD 30⟩ =
        .error failure.message) :
    (∃ e, verifyJwt jose token opts = .error e ∧ e.code = checkCode failure.failedCheck) ↔
      failure.Told := by
  have hfilter : opts.jwksUri.filter (· ≠ "") = some jwksUri := by
    rw [huri, Option.filter_some, if_pos (decide_eq_true hne)]
  have hthrown : verifyJwt jose token opts = .error (verifyError failure.message) := by
    simp only [verifyJwt, hfilter, h]
  rw [← code_message_iff, hthrown]
  simp

section Sample

private def sampleOptions : VerifyJwtOptions :=
  ⟨"https://curity.test", "web", some "http://127.0.0.1/jwks", none, none⟩

private def rejecting (failure : JwtFailure) : Jose where
  jwtVerify := fun _ _ ↦ .error failure.message
  compact := fun _ ↦ ""

/-- A token for another audience. -/
theorem verifyJwt_code_iff_sample :
    ∃ e, verifyJwt (rejecting (.unexpectedValue "aud")) "e30.alice.sig" sampleOptions = .error e ∧
      e.code = .invalidAudience :=
  (@verifyJwt_code_iff _ _ _ _ (.unexpectedValue "aud") rfl (by decide) rfl).mpr (Or.inl (by simp))

/-- A token without an audience is refused for its issuer. -/
theorem missing_audience_told_as_issuer :
    ¬ ∀ (jose : Jose) (token jwksUri : String) (opts : VerifyJwtOptions) (failure : JwtFailure),
      opts.jwksUri = some jwksUri → jwksUri ≠ "" →
      jose.jwtVerify token ⟨opts.issuer, opts.audience, jwksUri,
        opts.algorithms.getD ["RS256", "ES256"], opts.clockToleranceSec.getD 30⟩ =
          .error failure.message →
      ∃ e, verifyJwt jose token opts = .error e ∧ e.code = checkCode failure.failedCheck := by
  intro h
  obtain ⟨e, he, hcode⟩ := h (rejecting (.missingRequired "aud")) "e30.alice.sig" _ sampleOptions
    (.missingRequired "aud") rfl (by decide) rfl
  have hthrown : e = verifyError (missingRequired "aud").message := by
    cases he
    rfl
  rw [hthrown] at hcode
  exact absurd hcode (by decide)

end Sample

end AgentsAuth.AuthCurity
