import AnywhereMesh.Common.Text

/-! The parts of the `http` crate that the HTTP proxy path goes through: a
`HeaderMap` with its names and byte values, `HeaderValue::to_str`, and the
`Request` and `Response` builders. A builder parses each method, status, name
and value it is given and keeps the first error, which `.body` returns. A
`HeaderMap` is its entries in iteration order, which for `http` is the order of
insertion with a name's values in the order they came. It carries what its type
guarantees: each name is a lowercase token, and each value holds only bytes a
field value may hold. Only the parts of a `Uri` the proxy reads are kept; its
grammar is left out. -/

namespace AnywhereMesh

/-! ### Names and values -/

/-- RFC 7230 `tchar`: a digit, a letter, or one of ! # $ % & ' * + - . ^ _ ` | ~. -/
def isTokenChar (c : Char) : Bool :=
  let n := c.toNat
  (0x30 ≤ n && n ≤ 0x39) || (0x41 ≤ n && n ≤ 0x5A) || (0x61 ≤ n && n ≤ 0x7A) ||
    [0x21, 0x23, 0x24, 0x25, 0x26, 0x27, 0x2A, 0x2B, 0x2D, 0x2E, 0x5E, 0x5F, 0x60, 0x7C,
      0x7E].contains n

/-- A nonempty run of token characters, which is what `Method::from_str` accepts. -/
def isToken (s : String) : Bool := !s.data.isEmpty && s.data.all isTokenChar

/-- `HeaderName::from_str`: a token, lowercased. -/
def headerNameOfStr (s : String) : Option String :=
  if isToken s then some ⟨s.data.map Char.toLower⟩ else none

/-- `is_valid`: the bytes a `HeaderValue` may hold, all but the controls other than tab. -/
def isValidHeaderByte (b : UInt8) : Bool := (0x20 ≤ b && b != 0x7F) || b == 0x09

/-- `is_visible_ascii`: the bytes `HeaderValue::to_str` accepts. -/
def isVisibleAscii (b : UInt8) : Bool := (0x20 ≤ b && b < 0x7F) || b == 0x09

/-- `HeaderValue::to_str`: the value as a string, if every byte is visible ASCII. -/
def toStr (value : Bytes) : Option String :=
  if value.all isVisibleAscii then some ⟨value.map fun b => Char.ofNat b.toNat⟩ else none

theorem isTokenChar_lt {c : Char} (h : isTokenChar c = true) : c.toNat < 128 := by
  simp only [isTokenChar, Bool.or_eq_true, Bool.and_eq_true, decide_eq_true_eq,
    List.elem_eq_mem, List.mem_cons, List.mem_singleton, List.not_mem_nil, or_false] at h
  omega

set_option maxRecDepth 2000 in
theorem isTokenChar_toLower {c : Char} (h : isTokenChar c = true) :
    isTokenChar c.toLower = true ∧ c.toLower.toLower = c.toLower := by
  have key : ∀ n < 128, isTokenChar (Char.ofNat n) = true →
      isTokenChar (Char.ofNat n).toLower = true ∧
        (Char.ofNat n).toLower.toLower = (Char.ofNat n).toLower := by
    decide
  simpa only [Char.ofNat_toNat] using key c.toNat (isTokenChar_lt h) (by rwa [Char.ofNat_toNat])

/-- What `HeaderName::from_str` gives, it gives back unchanged. -/
theorem headerNameOfStr_idem {s n : String} (h : headerNameOfStr s = some n) :
    headerNameOfStr n = some n := by
  unfold headerNameOfStr at h ⊢
  split at h <;> cases h
  next hs =>
    simp only [isToken, Bool.and_eq_true, Bool.not_eq_true', List.isEmpty_eq_false,
      List.all_eq_true] at hs
    have hlow : ∀ c ∈ s.data, isTokenChar c.toLower = true ∧ c.toLower.toLower = c.toLower :=
      fun c hc => isTokenChar_toLower (hs.2 c hc)
    have htok : isToken ⟨s.data.map Char.toLower⟩ = true := by
      simpa [isToken, hs.1] using fun c hc => (hlow c hc).1
    simp only [htok, if_true, List.map_map, Option.some.injEq]
    exact congrArg _ (List.map_congr_left fun c hc => (hlow c hc).2)

set_option maxRecDepth 2000 in
/-- A byte `to_str` accepts is one ASCII byte, and one a value may hold. -/
theorem isVisibleAscii_spec {b : UInt8} (h : isVisibleAscii b = true) :
    String.utf8EncodeChar (Char.ofNat b.toNat) = [b] ∧ isValidHeaderByte b = true := by
  have key : ∀ n < 256, isVisibleAscii n.toUInt8 = true →
      String.utf8EncodeChar (Char.ofNat n) = [n.toUInt8] ∧
        isValidHeaderByte n.toUInt8 = true := by
    decide
  simpa only [toUInt8_toNat] using key b.toNat b.toNat_lt_size (by rwa [toUInt8_toNat])

/-- The string `to_str` gives has the value's bytes. -/
theorem utf8_toStr {value : Bytes} {s : String} (h : toStr value = some s) : utf8 s = value := by
  unfold toStr at h
  split at h <;> cases h
  next hv =>
    rw [List.all_eq_true] at hv
    simp only [utf8, List.flatMap]
    induction value with
    | nil => rfl
    | cons b bs ih =>
      simp only [List.map_cons, List.flatten_cons, List.mem_cons, forall_eq_or_imp] at hv ⊢
      rw [(isVisibleAscii_spec hv.1).1, ih hv.2]
      rfl

theorem toStr_isSome (value : Bytes) : (toStr value).isSome = value.all isVisibleAscii := by
  unfold toStr
  split <;> simp_all

theorem all_visible_of_toStr {value : Bytes} {s : String} (h : toStr value = some s) :
    value.all isVisibleAscii = true := by
  simp [← toStr_isSome, h]

theorem not_all_visible_of_toStr {value : Bytes} (h : toStr value = none) :
    value.all isVisibleAscii = false := by
  simp [← toStr_isSome, h]

theorem valid_of_toStr {value : Bytes} {s : String} (h : toStr value = some s) :
    (utf8 s).all isValidHeaderByte = true := by
  have hv := all_visible_of_toStr h
  rw [utf8_toStr h]
  simp only [List.all_eq_true] at hv ⊢
  exact fun b hb => (isVisibleAscii_spec (hv b hb)).2

/-! ### Header maps -/

/-- A `HeaderMap`, its entries in iteration order. -/
structure HeaderMap where
  entries : List (String × Bytes)
  names_valid : ∀ e ∈ entries, headerNameOfStr e.1 = some e.1
  values_valid : ∀ e ∈ entries, e.2.all isValidHeaderByte = true

namespace HeaderMap

def empty : HeaderMap := ⟨[], by simp, by simp⟩

/-- `HeaderMap::get`: a name's first value. -/
def get (h : HeaderMap) (name : String) : Option Bytes :=
  (h.entries.find? (·.1 = name)).map (·.2)

/-- `HeaderMap::get_all`: a name's values, in order. -/
def getAll (h : HeaderMap) (name : String) : List Bytes :=
  (h.entries.filter (·.1 = name)).map (·.2)

/-- `header(name, value)` on a builder: both are parsed, and the pair is
appended. -/
def tryAppend (h : HeaderMap) (name : String) (value : Bytes) : Except String HeaderMap :=
  match hn : headerNameOfStr name with
  | none => .error "invalid HTTP header name"
  | some n =>
    if hv : value.all isValidHeaderByte then
      .ok ⟨h.entries ++ [(n, value)],
        List.forall_mem_append.mpr
          ⟨h.names_valid, List.forall_mem_singleton.mpr (headerNameOfStr_idem hn)⟩,
        List.forall_mem_append.mpr ⟨h.values_valid, List.forall_mem_singleton.mpr hv⟩⟩
    else .error "failed to parse header value"

theorem tryAppend_of_valid (h : HeaderMap) {name : String} {value : Bytes}
    (hn : headerNameOfStr name = some name) (hv : value.all isValidHeaderByte = true) :
    ∃ h', h.tryAppend name value = .ok h' ∧ h'.entries = h.entries ++ [(name, value)] := by
  unfold tryAppend
  split
  · simp_all
  · next n hn' => exact ⟨_, by rw [dif_pos hv], by rw [hn] at hn'; cases hn'; rfl⟩

/-- Appending pairs whose names and values parse appends them all. -/
theorem foldlM_tryAppend (ps : List (String × String)) (h : HeaderMap)
    (hn : ∀ p ∈ ps, headerNameOfStr p.1 = some p.1)
    (hv : ∀ p ∈ ps, (utf8 p.2).all isValidHeaderByte = true) :
    ∃ h', ps.foldlM (fun h p => h.tryAppend p.1 (utf8 p.2)) h = .ok h' ∧
      h'.entries = h.entries ++ ps.map fun p => (p.1, utf8 p.2) := by
  induction ps generalizing h with
  | nil => exact ⟨h, rfl, by simp⟩
  | cons p ps ih =>
    simp only [List.mem_cons, forall_eq_or_imp] at hn hv
    obtain ⟨h₁, h₁_eq, h₁_entries⟩ := h.tryAppend_of_valid hn.1 hv.1
    obtain ⟨h', h'_eq, h'_entries⟩ := ih h₁ hn.2 hv.2
    refine ⟨h', ?_, by simp [h'_entries, h₁_entries]⟩
    rw [List.foldlM_cons, h₁_eq]
    exact h'_eq

end HeaderMap

/-! ### Requests and responses -/

/-- The parts of a `hyper::Uri` the proxy reads: the authority's host and the
path and query. -/
structure Uri where
  authorityHost : Option String
  pathAndQuery : Option String
  deriving DecidableEq, Repr

/-- A `Request<Body>`, with its body read. -/
structure HttpRequest where
  method : String
  method_valid : isToken method = true
  uri : Uri
  headers : HeaderMap
  body : Bytes

/-- A `Response<Body>`, with its body read; a `StatusCode` is 100 to 999. -/
structure HttpResponse where
  status : UInt16
  status_valid : 100 ≤ status.toNat ∧ status.toNat < 1000
  headers : HeaderMap
  body : Bytes

/-- `Request::builder()` with `method(Method::from_str(method)?)`, `uri`, each
`header`, then `body`. -/
def buildRequest (method : String) (uri : Uri) (headers : List (String × String))
    (body : Bytes) : Except String HttpRequest :=
  if hm : isToken method then do
    let h ← headers.foldlM (fun h p => h.tryAppend p.1 (utf8 p.2)) HeaderMap.empty
    pure ⟨method, hm, uri, h, body⟩
  else .error "invalid HTTP method"

/-- `Response::builder().status(status)`, each `header`, then `body`:
`StatusCode::from_u16` takes 100 to 999. -/
def buildResponse (status : UInt16) (headers : List (String × String)) (body : Bytes) :
    Except String HttpResponse :=
  if hs : 100 ≤ status.toNat ∧ status.toNat < 1000 then do
    let h ← headers.foldlM (fun h p => h.tryAppend p.1 (utf8 p.2)) HeaderMap.empty
    pure ⟨status, hs, h, body⟩
  else .error "invalid status code"

theorem buildRequest_of_valid {method : String} (hm : isToken method = true) (uri : Uri)
    {headers : List (String × String)} (hn : ∀ p ∈ headers, headerNameOfStr p.1 = some p.1)
    (hv : ∀ p ∈ headers, (utf8 p.2).all isValidHeaderByte = true) (body : Bytes) :
    ∃ r, buildRequest method uri headers body = .ok r ∧ r.method = method ∧ r.uri = uri ∧
      r.headers.entries = headers.map (fun p => (p.1, utf8 p.2)) ∧ r.body = body := by
  obtain ⟨h, h_eq, h_entries⟩ := HeaderMap.foldlM_tryAppend headers HeaderMap.empty hn hv
  refine ⟨⟨method, hm, uri, h, body⟩, ?_, rfl, rfl, h_entries, rfl⟩
  simp only [buildRequest, dif_pos hm, h_eq]
  rfl

theorem buildResponse_of_valid {status : UInt16} (hs : 100 ≤ status.toNat ∧ status.toNat < 1000)
    {headers : List (String × String)} (hn : ∀ p ∈ headers, headerNameOfStr p.1 = some p.1)
    (hv : ∀ p ∈ headers, (utf8 p.2).all isValidHeaderByte = true) (body : Bytes) :
    ∃ r, buildResponse status headers body = .ok r ∧ r.status = status ∧
      r.headers.entries = headers.map (fun p => (p.1, utf8 p.2)) ∧ r.body = body := by
  obtain ⟨h, h_eq, h_entries⟩ := HeaderMap.foldlM_tryAppend headers HeaderMap.empty hn hv
  refine ⟨⟨status, hs, h, body⟩, ?_, rfl, h_entries, rfl⟩
  simp only [buildResponse, dif_pos hs, h_eq]
  rfl

end AnywhereMesh
