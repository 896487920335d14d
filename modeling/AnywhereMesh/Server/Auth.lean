import AnywhereMesh.Common.Text
import AnywhereMesh.Common.Types

/-! `DefaultAuthService` (`server/auth.rs`): the role allow-list and
`authenticate`. The hyper client is the world the service talks to:
`parseUri` is `presigned_url.parse()` into a `hyper::Uri`, kept as its text, and
`get` is the client's GET, which fails with a message or answers a status and
the body as `String::from_utf8_lossy` decodes it. Every text is the decoding of
its own UTF-8 bytes, so ranging over texts ranges over what any body decodes to.

Proved: `matches_arn_pattern` accepts no ARN that the anchored glob reading of
its pattern rejects, and agrees with that reading on every pattern that ends
with `*`; on the others it can miss a match, since it takes each part at its
leftmost occurrence and a last part that occurs twice leaves a tail behind.
`authenticate` accepts a 2xx reply that carries the three identity fields with
an allowed ARN from whatever host the agent's URL names. -/

namespace AnywhereMesh.Server

/-! ### Role patterns -/

/-- The loop of `matches_arn_pattern` over the pattern's `*`-separated parts, from
the part at index `i`, with `rem` the part of the ARN not yet consumed: what is
left once every part is found, or `none` where the loop returns `false`. -/
def matchParts : ℕ → List (List Char) → List Char → Option (List Char)
  | _, [], rem => some rem
  | i, part :: parts, rem =>
    if part.isEmpty then matchParts (i + 1) parts rem
    else if i = 0 ∧ part.isPrefixOf rem = false then none
    else
      match findSub part rem with
      | some pos =>
        if i = 0 ∧ pos ≠ 0 then none else matchParts (i + 1) parts (rem.drop (pos + part.length))
      | none => none

def matchesArnPattern (arn pattern : String) : Bool :=
  if pattern = "*" then true
  else if '*' ∉ pattern.data then arn == pattern
  else
    let patternParts := pattern.data.splitOn '*'
    if patternParts.isEmpty then false
    else
      match matchParts 0 patternParts arn.data with
      | some arnRemaining => pattern.data.getLast? = some '*' || arnRemaining.isEmpty
      | none => false

def isRoleAllowed (allowedRolePatterns : List String) (arn : String) : Bool :=
  allowedRolePatterns.isEmpty || allowedRolePatterns.contains "*" ||
    allowedRolePatterns.any (matchesArnPattern arn)

/-! ### Glob matching, as the spec reads a pattern -/

/-- A pattern character: `*`, or a literal. -/
inductive GlobToken
  | star
  | lit (c : Char)
  deriving DecidableEq, Repr

def GlobToken.ofChar (c : Char) : GlobToken := if c = '*' then .star else .lit c

/-- Anchored glob matching: a literal matches itself and a `*` matches any,
possibly empty, substring. -/
def globTokens : List GlobToken → List Char → Bool
  | [], s => s.isEmpty
  | .star :: p, s => s.tails.any (globTokens p)
  | .lit _ :: _, [] => false
  | .lit c :: p, d :: s => c == d && globTokens p s

def globMatches (pattern arn : String) : Bool :=
  globTokens (pattern.data.map .ofChar) arn.data

theorem globTokens_star_iff {p : List GlobToken} {s : List Char} :
    globTokens (.star :: p) s = true ↔ ∃ t, t <:+ s ∧ globTokens p t = true := by
  simp [globTokens, List.mem_tails]

/-- A run of literals matches the same characters at the front. -/
theorem globTokens_lits (lit : List Char) (p : List GlobToken) (s : List Char) :
    globTokens (lit.map .lit ++ p) s = (lit.isPrefixOf s && globTokens p (s.drop lit.length)) := by
  induction lit generalizing s with
  | nil => simp
  | cons c lit ih => cases s <;> simp [globTokens, ih, List.isPrefixOf, Bool.and_assoc]

/-- A `*` in front matches on every longer tail as well. -/
theorem globTokens_star_of_suffix {p : List GlobToken} {s t : List Char}
    (h : globTokens (.star :: p) t = true) (ht : t <:+ s) : globTokens (.star :: p) s = true := by
  obtain ⟨u, hu, hp⟩ := globTokens_star_iff.mp h
  exact globTokens_star_iff.mpr ⟨u, hu.trans ht, hp⟩

/-- The glob reading of the parts after the first: each behind its `*`. -/
def starTokens (ps : List (List Char)) : List GlobToken :=
  (ps.map fun part => .star :: part.map .lit).flatten

@[simp] theorem starTokens_nil : starTokens [] = [] := rfl

@[simp] theorem starTokens_cons (part : List Char) (ps : List (List Char)) :
    starTokens (part :: ps) = .star :: (part.map .lit ++ starTokens ps) := rfl

theorem map_ofChar_of_not_mem {l : List Char} (h : '*' ∉ l) :
    l.map GlobToken.ofChar = l.map GlobToken.lit :=
  List.map_congr_left fun c hc => if_neg (show c ≠ '*' from fun hs => h (hs ▸ hc))

/-- A pattern reads as its first part followed by the later parts. -/
theorem tokens_of_splitOn {pattern p : List Char} {ps : List (List Char)}
    (h : pattern.splitOn '*' = p :: ps) :
    pattern.map GlobToken.ofChar = p.map .lit ++ starTokens ps := by
  obtain ⟨rfl, hp, hps⟩ := splitOn_eq_cons h
  simp only [List.map_append, map_ofChar_of_not_mem hp, starTokens, List.map_flatten,
    List.map_map, List.append_cancel_left_eq]
  exact congrArg _ (List.map_congr_left fun l hl => by
    simp [GlobToken.ofChar, map_ofChar_of_not_mem (hps l hl)])

/-! ### The loop against the glob reading -/

/-- Once the first part sits at the front, the loop goes on past it. -/
theorem matchParts_zero {p arn : List Char} (ps : List (List Char)) (hp : p <+: arn) :
    matchParts 0 (p :: ps) arn = matchParts 1 ps (arn.drop p.length) := by
  have hp' := List.isPrefixOf_iff_prefix.mpr hp
  rw [matchParts]
  split
  · next he => simp [List.isEmpty_iff.mp he]
  · simp [hp', findSub_of_isPrefixOf hp']

/-- The loop stops at once unless the first part sits at the front. -/
theorem prefix_of_matchParts_zero {p arn : List Char} {ps : List (List Char)}
    (h : (matchParts 0 (p :: ps) arn).isSome) : p <+: arn := by
  by_contra hp
  cases p with
  | nil => exact hp (List.nil_prefix)
  | cons c p =>
    have hf : (c :: p).isPrefixOf arn = false := by
      rw [← Bool.not_eq_true, List.isPrefixOf_iff_prefix]
      exact hp
    simp [matchParts, hf] at h

/-- Once the first part is found, every later part the loop finds matches its
`*` and literals, so whatever matches what the loop leaves makes the rest match. -/
theorem globTokens_of_matchParts {i : ℕ} (hi : i ≠ 0) {ps : List (List Char)} {rem r : List Char}
    (h : matchParts i ps rem = some r) {q : List GlobToken} (hq : globTokens q r = true) :
    globTokens (starTokens ps ++ q) rem = true := by
  induction ps generalizing i rem with
  | nil => simpa [matchParts] using (Option.some.inj h) ▸ hq
  | cons part ps ih =>
    simp only [matchParts, hi, false_and, if_false] at h
    simp only [starTokens_cons, List.cons_append, List.append_assoc]
    split at h
    · next he =>
      rw [List.isEmpty_iff.mp he]
      exact globTokens_star_iff.mpr ⟨rem, List.suffix_refl _, ih (Nat.succ_ne_zero i) h⟩
    · split at h
      · next pos hpos =>
        refine globTokens_star_iff.mpr ⟨rem.drop pos, List.drop_suffix _ _, ?_⟩
        rw [globTokens_lits, List.drop_drop]
        simpa [List.isPrefixOf_iff_prefix.mpr (prefix_drop_of_findSub hpos)] using
          ih (Nat.succ_ne_zero i) h
      · cases h

/-- Where the rest matches, the loop finds every part. -/
theorem matchParts_isSome {i : ℕ} (hi : i ≠ 0) {ps : List (List Char)} {rem : List Char}
    (h : globTokens (starTokens ps) rem = true) : (matchParts i ps rem).isSome := by
  induction ps generalizing i rem with
  | nil => rfl
  | cons part ps ih =>
    rw [starTokens_cons] at h
    obtain ⟨t, ht, hmatch⟩ := globTokens_star_iff.mp h
    rw [globTokens_lits, Bool.and_eq_true, List.isPrefixOf_iff_prefix] at hmatch
    obtain ⟨hpre, hrest⟩ := hmatch
    /- the rest matches on every longer tail, when there is a rest -/
    have hmono : ∀ u, t.drop part.length <:+ u → (matchParts (i + 1) ps u).isSome := by
      intro u hu
      cases ps with
      | nil => rfl
      | cons q qs => exact ih (Nat.succ_ne_zero i) (globTokens_star_of_suffix hrest hu)
    simp only [matchParts, hi, false_and, if_false]
    split
    · next he => exact hmono rem ((List.drop_suffix _ _).trans ht)
    · obtain ⟨k, rfl⟩ := ht
      obtain ⟨pos, hle, hpos⟩ := @findSub_le part (k ++ t) k.length
        (by simpa using hpre)
      simp only [hpos]
      refine hmono _ ?_
      simpa using List.drop_suffix_drop_left (k ++ t) (Nat.add_le_add_right hle part.length)

theorem matchParts_append_nil (i : ℕ) (ps : List (List Char)) (rem : List Char) :
    matchParts i (ps ++ [[]]) rem = matchParts i ps rem := by
  induction ps generalizing i rem with
  | nil => rfl
  | cons part ps ih => simp only [List.cons_append, matchParts, List.append_eq, ih]

/-- A pattern that ends with `*` splits into parts whose last one is empty. -/
theorem splitOn_of_getLast? {pattern p : List Char} {ps : List (List Char)}
    (h : pattern.splitOn '*' = p :: ps) (hlast : pattern.getLast? = some '*') :
    ∃ ps', ps = ps' ++ [[]] := by
  obtain ⟨rfl, hp, hps⟩ := splitOn_eq_cons h
  rcases List.eq_nil_or_concat' ps with rfl | ⟨ps', l, rfl⟩
  · exact absurd (List.mem_of_getLast?_eq_some hlast) (by simpa using hp)
  · refine ⟨ps', ?_⟩
    have hl : '*' ∉ l := hps l (by simp)
    rcases List.eq_nil_or_concat' l with rfl | ⟨l', c, rfl⟩
    · rfl
    · have hc : c = '*' := by simpa [List.getLast?_cons] using hlast
      exact absurd (by simp [hc]) hl

/-! ### `matches_arn_pattern` against the glob reading -/

/-- `matches_arn_pattern` accepts no ARN that the glob reading rejects. -/
theorem globMatches_of_matchesArnPattern {arn pattern : String}
    (h : matchesArnPattern arn pattern = true) : globMatches pattern arn = true := by
  unfold matchesArnPattern at h
  by_cases hstar : pattern = "*"
  · subst hstar
    exact globTokens_star_iff.mpr ⟨[], List.nil_suffix, rfl⟩
  rw [if_neg hstar] at h
  by_cases hnone : '*' ∈ pattern.data
  · obtain ⟨p, ps, hsplit⟩ := List.exists_cons_of_ne_nil
      (show pattern.data.splitOn '*' ≠ [] from List.splitOnP_ne_nil _ _)
    simp only [hnone, not_true_eq_false, if_false, hsplit, List.isEmpty_cons] at h
    cases hr : matchParts 0 (p :: ps) arn.data with
    | none => simp only [hr] at h; cases h
    | some r =>
      simp only [hr] at h
      have hpre := @prefix_of_matchParts_zero p arn.data ps (by rw [hr]; rfl)
      rw [matchParts_zero ps hpre] at hr
      rw [globMatches, tokens_of_splitOn hsplit, globTokens_lits,
        List.isPrefixOf_iff_prefix.mpr hpre, Bool.true_and]
      rcases Bool.or_eq_true_iff.mp h with hlast | hrem
      · obtain ⟨ps', rfl⟩ := splitOn_of_getLast? hsplit (of_decide_eq_true hlast)
        rw [matchParts_append_nil] at hr
        simpa [starTokens] using globTokens_of_matchParts Nat.one_ne_zero hr
          (q := [.star]) (globTokens_star_iff.mpr ⟨[], List.nil_suffix, rfl⟩)
      · simpa using globTokens_of_matchParts Nat.one_ne_zero hr (q := []) hrem
  · rw [if_pos hnone, beq_iff_eq] at h
    subst h
    rw [globMatches, map_ofChar_of_not_mem hnone]
    have hlits := globTokens_lits arn.data [] arn.data
    rw [List.append_nil] at hlits
    rw [hlits, List.isPrefixOf_iff_prefix.mpr (List.prefix_refl _)]
    simp [globTokens]

/-- On a pattern that ends with `*`, `matches_arn_pattern` is the glob reading. -/
theorem matchesArnPattern_eq_globMatches {arn pattern : String}
    (hlast : pattern.data.getLast? = some '*') :
    matchesArnPattern arn pattern = globMatches pattern arn := by
  cases hg : globMatches pattern arn
  · cases hm : matchesArnPattern arn pattern
    · rfl
    · simpa [hg] using globMatches_of_matchesArnPattern hm
  · unfold matchesArnPattern
    by_cases hstar : pattern = "*"
    · simp [hstar]
    obtain ⟨p, ps, hsplit⟩ := List.exists_cons_of_ne_nil
      (show pattern.data.splitOn '*' ≠ [] from List.splitOnP_ne_nil _ _)
    rw [globMatches, tokens_of_splitOn hsplit, globTokens_lits, Bool.and_eq_true,
      List.isPrefixOf_iff_prefix] at hg
    obtain ⟨r, hr⟩ := Option.isSome_iff_exists.mp (matchParts_isSome Nat.one_ne_zero hg.2)
    rw [if_neg hstar, if_neg (not_not.mpr (List.mem_of_getLast?_eq_some hlast))]
    simp only [hsplit, List.isEmpty_cons, matchParts_zero ps hg.1, hr, hlast]
    rfl

theorem matchesArnPattern_eq_globMatches_role :
    "arn:aws:iam::123456789012:role/*".data.getLast? = some '*' ∧
      matchesArnPattern "arn:aws:iam::123456789012:role/agent" "arn:aws:iam::123456789012:role/*" =
        globMatches "arn:aws:iam::123456789012:role/*" "arn:aws:iam::123456789012:role/agent" :=
  ⟨by decide, matchesArnPattern_eq_globMatches (by decide)⟩

/-- `is_role_allowed` admits an ARN only through an empty list, a `*` entry, or a
pattern whose glob reading matches the ARN. -/
theorem isRoleAllowed_sound {patterns : List String} {arn : String}
    (h : isRoleAllowed patterns arn = true) :
    patterns = [] ∨ "*" ∈ patterns ∨ ∃ p ∈ patterns, globMatches p arn = true := by
  simp only [isRoleAllowed, Bool.or_eq_true, List.isEmpty_iff, List.elem_iff,
    List.any_eq_true] at h
  rcases h with (h | h) | ⟨p, hp, hm⟩
  · exact .inl h
  · exact .inr (.inl h)
  · exact .inr (.inr ⟨p, hp, globMatches_of_matchesArnPattern hm⟩)

theorem isRoleAllowed_sound_role :
    isRoleAllowed ["arn:aws:iam::123456789012:role/*"] "arn:aws:iam::123456789012:role/agent" ∧
      (["arn:aws:iam::123456789012:role/*"] = [] ∨ "*" ∈ ["arn:aws:iam::123456789012:role/*"] ∨
        ∃ p ∈ ["arn:aws:iam::123456789012:role/*"],
          globMatches p "arn:aws:iam::123456789012:role/agent" = true) :=
  ⟨by decide, isRoleAllowed_sound (by decide)⟩

/-- `a*b` glob-matches `abb`, but the loop takes the first `b` and leaves the
second behind, so neither `matches_arn_pattern` nor an allow-list of that one
pattern admits it. -/
theorem arn_pattern_false_negative :
    globMatches "a*b" "abb" = true ∧ matchesArnPattern "abb" "a*b" = false ∧
      isRoleAllowed ["a*b"] "abb" = false := by
  decide

/-! ### `authenticate` -/

/-- What the client's GET answers: the status, and the body as
`String::from_utf8_lossy` decodes it. -/
structure HttpReply where
  status : UInt16
  body : String
  deriving DecidableEq, Repr

/-- A `DefaultAuthService` and the world it talks to. -/
structure DefaultAuthService where
  /-- `presigned_url.parse()`: the URI, kept as its text, or the parse error's message. -/
  parseUri : String → Except String String
  /-- `http_client.get`: the reply, or the error's message. -/
  get : String → Except String HttpReply
  allowedRolePatterns : List String
  skipValidation : Bool

def extractXmlField (xml tag : String) : Option String := do
  let start := "<" ++ tag ++ ">"
  let stop := "</" ++ tag ++ ">"
  let si := (← findSub start.data xml.data) + start.length
  let ei := (← findSub stop.data (xml.data.drop si)) + si
  pure ⟨(xml.data.take ei).drop si⟩

/-- `StatusCode::is_success`. -/
def isSuccess (status : UInt16) : Bool := 200 ≤ status && status < 300

/-- The codes `StatusCode::canonical_reason` knows, with their reason phrases. -/
def canonicalReasons : List (UInt16 × String) :=
  [(100, "Continue"), (101, "Switching Protocols"), (102, "Processing"),
    (200, "OK"), (201, "Created"), (202, "Accepted"), (203, "Non Authoritative Information"),
    (204, "No Content"), (205, "Reset Content"), (206, "Partial Content"),
    (207, "Multi-Status"), (208, "Already Reported"), (226, "IM Used"),
    (300, "Multiple Choices"), (301, "Moved Permanently"), (302, "Found"), (303, "See Other"),
    (304, "Not Modified"), (305, "Use Proxy"), (307, "Temporary Redirect"),
    (308, "Permanent Redirect"),
    (400, "Bad Request"), (401, "Unauthorized"), (402, "Payment Required"), (403, "Forbidden"),
    (404, "Not Found"), (405, "Method Not Allowed"), (406, "Not Acceptable"),
    (407, "Proxy Authentication Required"), (408, "Request Timeout"), (409, "Conflict"),
    (410, "Gone"), (411, "Length Required"), (412, "Precondition Failed"),
    (413, "Payload Too Large"), (414, "URI Too Long"), (415, "Unsupported Media Type"),
    (416, "Range Not Satisfiable"), (417, "Expectation Failed"), (418, "I\x27m a teapot"),
    (421, "Misdirected Request"), (422, "Unprocessable Entity"), (423, "Locked"),
    (424, "Failed Dependency"), (426, "Upgrade Required"), (428, "Precondition Required"),
    (429, "Too Many Requests"), (431, "Request Header Fields Too Large"),
    (451, "Unavailable For Legal Reasons"),
    (500, "Internal Server Error"), (501, "Not Implemented"), (502, "Bad Gateway"),
    (503, "Service Unavailable"), (504, "Gateway Timeout"), (505, "HTTP Version Not Supported"),
    (506, "Variant Also Negotiates"), (507, "Insufficient Storage"), (508, "Loop Detected"),
    (510, "Not Extended"), (511, "Network Authentication Required")]

/-- `StatusCode`'s `Display`: the code, a space and its canonical reason. -/
def statusDisplay (status : UInt16) : String :=
  toString status ++ " " ++ (canonicalReasons.lookup status).getD "<unknown status code>"

example : statusDisplay 403 = "403 Forbidden" ∧ statusDisplay 299 = "299 <unknown status code>" := by
  decide

namespace DefaultAuthService

def validateWithSts (svc : DefaultAuthService) (presignedUrl _region : String) :
    IamAuthResponse :=
  match svc.parseUri presignedUrl with
  | .error e => ⟨false, some ("Invalid presigned URL: " ++ e), none⟩
  | .ok uri =>
    match svc.get uri with
    | .error e => ⟨false, some ("STS call failed: " ++ e), none⟩
    | .ok resp =>
      if isSuccess resp.status then
        match extractXmlField resp.body "Arn", extractXmlField resp.body "Account",
            extractXmlField resp.body "UserId" with
        | some arn, some account, some userId =>
          if isRoleAllowed svc.allowedRolePatterns arn then
            ⟨true, none, some ⟨arn, account, userId, "AssumedRole"⟩⟩
          else ⟨false, some "Role not allowed", none⟩
        | _, _, _ => ⟨false, some "Failed to parse STS identity", none⟩
      else ⟨false, some ("STS call failed with status: " ++ statusDisplay resp.status), none⟩

def authenticate (svc : DefaultAuthService) (authRequest : IamAuthRequest) : IamAuthResponse :=
  if svc.skipValidation then
    ⟨true, none, some ⟨"arn:aws:iam::000000000000:role/skipped-validation", "000000000000",
      "skipped-validation", "AssumedRole"⟩⟩
  else
    match authRequest.presignedUrl with
    | some presignedUrl => svc.validateWithSts presignedUrl authRequest.region
    | none => ⟨false, some "No presigned URL provided", none⟩

/-- What a server the agent runs itself answers: an identity of its choosing. -/
def forgedReply : HttpReply :=
  ⟨200, "<Arn>arn:aws:iam::123456789012:role/agent</Arn><Account>123456789012</Account>" ++
    "<UserId>AROAEXAMPLE:agent</UserId>"⟩

/-- The validator, allowing the roles of one account, where the agent's own host
answers with `forgedReply` and nothing else answers at all. -/
def forgedWorld : DefaultAuthService :=
  ⟨fun url => .ok url,
    fun uri => if uri = "https://attacker.example/" then .ok forgedReply else .error "unreachable",
    ["arn:aws:iam::123456789012:role/*"], false⟩

def forgedRequest : IamAuthRequest :=
  ⟨some "https://attacker.example/", "us-east-1", none, none, none⟩

/-- A presigned URL naming the agent's own host, not `sts.us-east-1.amazonaws.com`,
authenticates. -/
theorem authenticate_accepts_foreign_host :
    forgedRequest.presignedUrl = some "https://attacker.example/" ∧
      forgedWorld.authenticate forgedRequest =
        ⟨true, none, some ⟨"arn:aws:iam::123456789012:role/agent", "123456789012",
          "AROAEXAMPLE:agent", "AssumedRole"⟩⟩ := by
  decide

end DefaultAuthService

end AnywhereMesh.Server
