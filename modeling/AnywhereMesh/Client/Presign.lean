import Mathlib.Data.List.Sort
import AnywhereMesh.Common.Text

/-! `EcsAnywhereClient::build_presigned_sts_url` (`client/client_impl.rs`): the
SigV4 presigned `GetCallerIdentity` URL an agent hands the ingress. Strings are
taken as their UTF-8 bytes, which is what `utf8_percent_encode` reads and what
`format!` concatenates. The signing chain (the HMAC key derived from the secret,
the date, the region and the service, the string to sign, and the SHA-256 of the
canonical request inside it) is one function `mac` from the canonical request to
the signature's bytes, so a statement over every `mac` holds for every secret
and every clock.

Proved: splitting the URL's query on `&` and `=` and percent-decoding gives back
the parameters, in canonical order, and then the signature, since the encode set
takes `%`, `&` and `=`. But the set leaves `<`, `>`, `\`, `^`, the backtick, `{`,
`|` and `}` as they are, where SigV4 encodes every byte outside the unreserved
ones, so a parameter that holds one of them is signed in a form that
canonicalizing the parameters by the SigV4 rules does not give back. -/

namespace AnywhereMesh.Client

/-! ### Percent-encoding -/

/-- `AWS_QUERY_ENCODE_SET`: `CONTROLS` (the bytes below 0x20, and 0x7F) and
space ! " # $ % & ' ( ) * + , / : ; = ? @ [ ]. -/
def awsQueryEncodeSet (b : UInt8) : Bool :=
  b < 0x20 || b == 0x7F ||
    [0x20, 0x21, 0x22, 0x23, 0x24, 0x25, 0x26, 0x27, 0x28, 0x29, 0x2A, 0x2B, 0x2C, 0x2F, 0x3A,
      0x3B, 0x3D, 0x3F, 0x40, 0x5B, 0x5D].contains b

/-- The bytes `utf8_percent_encode` writes as `%XX`: every byte outside ASCII,
and those of the set. -/
def shouldPercentEncode (set : UInt8 → Bool) (b : UInt8) : Bool := 0x80 ≤ b || set b

/-- An uppercase hex digit. -/
def hexDigit (n : ℕ) : UInt8 := if n < 10 then (0x30 + n).toUInt8 else (0x37 + n).toUInt8

/-- `percent_encode_byte`. -/
def percentEncodeByte (b : UInt8) : Bytes := [0x25, hexDigit (b.toNat / 16), hexDigit (b.toNat % 16)]

def utf8PercentEncode (set : UInt8 → Bool) : Bytes → Bytes
  | [] => []
  | b :: bs =>
    (if shouldPercentEncode set b then percentEncodeByte b else [b]) ++ utf8PercentEncode set bs

/-- The value of a hex digit, in either case. -/
def hexValue (b : UInt8) : Option ℕ :=
  if 0x30 ≤ b ∧ b ≤ 0x39 then some (b.toNat - 0x30)
  else if 0x41 ≤ b ∧ b ≤ 0x46 then some (b.toNat - 0x37)
  else if 0x61 ≤ b ∧ b ≤ 0x66 then some (b.toNat - 0x57)
  else none

/-- Percent-decoding, a byte at a time: a `%` and two hex digits stand for one
byte, and every other byte, a `%` without two hex digits after it included,
stands for itself. `pending` holds the `%`, and the hex digit after it, of an
escape not yet complete. -/
def percentDecodeFrom : Bytes → Bytes → Bytes
  | pending, [] => pending
  | [], b :: bs => if b = 0x25 then percentDecodeFrom [b] bs else b :: percentDecodeFrom [] bs
  | [p], b :: bs =>
    if (hexValue b).isSome then percentDecodeFrom [p, b] bs
    else p :: if b = 0x25 then percentDecodeFrom [b] bs else b :: percentDecodeFrom [] bs
  | [p, h], b :: bs =>
    match hexValue h, hexValue b with
    | some hi, some lo => (hi * 16 + lo).toUInt8 :: percentDecodeFrom [] bs
    | _, _ => p :: h :: if b = 0x25 then percentDecodeFrom [b] bs else b :: percentDecodeFrom [] bs
  | pending, b :: bs => pending ++ b :: percentDecodeFrom [] bs

def percentDecode (bs : Bytes) : Bytes := percentDecodeFrom [] bs

theorem hexValue_hexDigit : ∀ n < 16, hexValue (hexDigit n) = some n := by
  decide

theorem percentDecode_percentEncodeByte (b : UInt8) (rest : Bytes) :
    percentDecode (percentEncodeByte b ++ rest) = b :: percentDecode rest := by
  have hb : b.toNat < 256 := b.toNat_lt_size
  simp only [percentEncodeByte, List.cons_append, List.nil_append, percentDecode,
    percentDecodeFrom, hexValue_hexDigit _ (show b.toNat / 16 < 16 by omega),
    hexValue_hexDigit _ (show b.toNat % 16 < 16 by omega), if_pos, Option.isSome_some]
  rw [Nat.div_add_mod' b.toNat 16, toUInt8_toNat]
  rfl

theorem percentDecode_of_ne {b : UInt8} (h : b ≠ 0x25) (rest : Bytes) :
    percentDecode (b :: rest) = b :: percentDecode rest := by
  simp [percentDecode, percentDecodeFrom, h]

/-- Decoding undoes encoding whenever the set takes `%`. -/
theorem percentDecode_utf8PercentEncode {set : UInt8 → Bool} (h : set 0x25 = true) (bs : Bytes) :
    percentDecode (utf8PercentEncode set bs) = bs := by
  induction bs with
  | nil => rfl
  | cons b bs ih =>
    simp only [utf8PercentEncode]
    split
    · rw [percentDecode_percentEncodeByte, ih]
    · next hb =>
      have hne : b ≠ 0x25 := by rintro rfl; simp [shouldPercentEncode, h] at hb
      rw [List.singleton_append, percentDecode_of_ne hne, ih]

/-- A byte of the set that is neither `%` nor a hex digit never shows in an
encoding. -/
theorem not_mem_utf8PercentEncode {set : UInt8 → Bool} {x : UInt8} (hx : set x = true)
    (h25 : x ≠ 0x25) (hhex : ∀ n < 16, hexDigit n ≠ x) (bs : Bytes) :
    x ∉ utf8PercentEncode set bs := by
  induction bs with
  | nil => simp [utf8PercentEncode]
  | cons b bs ih =>
    simp only [utf8PercentEncode, List.mem_append, not_or]
    refine ⟨?_, ih⟩
    split
    · have hb : b.toNat < 256 := b.toNat_lt_size
      simp only [percentEncodeByte, List.mem_cons, List.not_mem_nil, or_false, not_or]
      exact ⟨h25, Ne.symm (hhex (b.toNat / 16) (by omega)), Ne.symm (hhex (b.toNat % 16) (by omega))⟩
    · next hb =>
      simp only [List.mem_singleton]
      rintro rfl
      simp [shouldPercentEncode, hx] at hb

theorem percentDecode_of_not_mem {bs : Bytes} (h : (0x25 : UInt8) ∉ bs) : percentDecode bs = bs := by
  induction bs with
  | nil => rfl
  | cons b bs ih =>
    rw [List.mem_cons, not_or] at h
    rw [percentDecode_of_ne (Ne.symm h.1), ih h.2]

/-! ### The presigned URL -/

/-- The parameters `build_presigned_sts_url` signs, before encoding; the date
stamp is the first eight bytes of the `%Y%m%dT%H%M%SZ` timestamp. -/
def presignParams (accessKey region amzDate : String) (sessionToken : Option String) :
    List (String × String) :=
  [("Action", "GetCallerIdentity"), ("Version", "2011-06-15"),
    ("X-Amz-Algorithm", "AWS4-HMAC-SHA256"),
    ("X-Amz-Credential", accessKey ++ "/" ++ amzDate.take 8 ++ "/" ++ region ++ "/sts/aws4_request"),
    ("X-Amz-Date", amzDate), ("X-Amz-Expires", "60"), ("X-Amz-SignedHeaders", "host")] ++
    (sessionToken.map fun token => ("X-Amz-Security-Token", token)).toList

/-- `Ord::cmp` on strings: byte by byte, a proper prefix first. -/
def cmpBytes : Bytes → Bytes → Ordering
  | [], [] => .eq
  | [], _ :: _ => .lt
  | _ :: _, [] => .gt
  | a :: xs, b :: ys => (compare a b).then (cmpBytes xs ys)

/-- The order `sort_by` is given: by key, then by value. -/
def PairLe (p q : Bytes × Bytes) : Prop := (cmpBytes p.1 q.1).then (cmpBytes p.2 q.2) ≠ .gt

instance : DecidableRel PairLe := fun _ _ => inferInstanceAs (Decidable (_ ≠ _))

/-- `sort_by` on the encoded pairs. Every sort gives this list: the order is
total, and it ties only equal pairs. -/
def sortPairs (ps : List (Bytes × Bytes)) : List (Bytes × Bytes) := ps.insertionSort PairLe

theorem sortPairs_perm (ps : List (Bytes × Bytes)) : List.Perm (sortPairs ps) ps :=
  List.perm_insertionSort _ _

def stringPair (p : String × String) : Bytes × Bytes := (utf8 p.1, utf8 p.2)

def encodePair (set : UInt8 → Bool) (p : Bytes × Bytes) : Bytes × Bytes :=
  (utf8PercentEncode set p.1, utf8PercentEncode set p.2)

/-- `format!("{}={}", k, v)` for each pair, joined with `&`. -/
def joinQuery (ps : List (Bytes × Bytes)) : Bytes :=
  [0x26].intercalate (ps.map fun p => p.1 ++ 0x3D :: p.2)

def canonicalQuery (params : List (String × String)) : Bytes :=
  joinQuery (sortPairs (params.map (encodePair awsQueryEncodeSet ∘ stringPair)))

/-- The SHA-256 of the empty body, as `hex::encode` writes it. -/
def emptyPayloadHash : String :=
  "e3b0c44298fc1c149afbf4c8996fb92427ae41e4649b934ca495991b7852b855"

def canonicalRequest (canonicalQuery : Bytes) (host : String) : Bytes :=
  utf8 "GET\n/\n" ++ canonicalQuery ++ utf8 ("\nhost:" ++ host ++ "\n\nhost\n" ++ emptyPayloadHash)

/-- A lowercase hex digit. -/
def hexDigitLower (n : ℕ) : UInt8 := if n < 10 then (0x30 + n).toUInt8 else (0x57 + n).toUInt8

/-- `hex::encode`. -/
def hexEncode (bs : Bytes) : Bytes :=
  bs.flatMap fun b => [hexDigitLower (b.toNat / 16), hexDigitLower (b.toNat % 16)]

def stsHost (region : String) : String := "sts." ++ region ++ ".amazonaws.com"

/-- The signature: `mac` stands for the signing chain over the canonical request. -/
def presignSignature (mac : Bytes → Bytes) (query : Bytes) (region : String) : Bytes :=
  hexEncode (mac (canonicalRequest query (stsHost region)))

/-- `build_presigned_sts_url`, once the region and the credentials are loaded. -/
def buildPresignedStsUrl (mac : Bytes → Bytes) (accessKey : String) (sessionToken : Option String)
    (region amzDate : String) : Bytes :=
  let query := canonicalQuery (presignParams accessKey region amzDate sessionToken)
  utf8 ("https://" ++ stsHost region ++ "?") ++ query ++ utf8 "&X-Amz-Signature=" ++
    presignSignature mac query region

/-! ### Reading the query back, and canonicalizing it by the SigV4 rules -/

/-- A URL's query: what follows its first `?`. -/
def queryOf (url : Bytes) : Bytes := (url.dropWhile (· ≠ 0x3F)).drop 1

def decodePair (p : Bytes × Bytes) : Bytes × Bytes := (percentDecode p.1, percentDecode p.2)

/-- A piece `k=v`, cut at its first `=`, both sides percent-decoded. -/
def parsePiece (piece : Bytes) : Bytes × Bytes :=
  decodePair (piece.takeWhile (· ≠ 0x3D), (piece.dropWhile (· ≠ 0x3D)).drop 1)

def parseQuery (query : Bytes) : List (Bytes × Bytes) := (query.splitOn 0x26).map parsePiece

/-- The RFC 3986 unreserved bytes: letters, digits, `-`, `.`, `_` and `~`. -/
def sigV4Unreserved (b : UInt8) : Bool :=
  (0x41 ≤ b && b ≤ 0x5A) || (0x61 ≤ b && b ≤ 0x7A) || (0x30 ≤ b && b ≤ 0x39) ||
    b == 0x2D || b == 0x2E || b == 0x5F || b == 0x7E

/-- SigV4 canonicalization: every byte outside the unreserved ones as `%XX`, key
and value apart, then sorted by encoded key and encoded value. -/
def sigV4CanonicalQuery (params : List (Bytes × Bytes)) : Bytes :=
  joinQuery (sortPairs (params.map (encodePair fun b => !sigV4Unreserved b)))

/-- `<`, `>`, `\`, `^`, the backtick, `{`, `|` and `}`: reserved bytes that
`AWS_QUERY_ENCODE_SET` does not take. -/
def leftUnencoded : List UInt8 := [0x3C, 0x3E, 0x5C, 0x5E, 0x60, 0x7B, 0x7C, 0x7D]

/-! ### The query reads back -/

section Intercalate

variable {α : Type} {x : α}

theorem intercalate_cons_cons (a b : List α) (rest : List (List α)) :
    [x].intercalate (a :: b :: rest) = a ++ x :: [x].intercalate (b :: rest) := by
  simp [List.intercalate]

theorem intercalate_append_singleton {ls : List (List α)} (l : List α) (h : ls ≠ []) :
    [x].intercalate ls ++ x :: l = [x].intercalate (ls ++ [l]) := by
  induction ls with
  | nil => exact absurd rfl h
  | cons a rest ih =>
    cases rest with
    | nil => simp [List.intercalate]
    | cons b rest =>
      rw [List.cons_append, List.cons_append, intercalate_cons_cons, intercalate_cons_cons,
        List.append_assoc, List.cons_append, ih (List.cons_ne_nil _ _), List.cons_append]

/-- What a joined list holds: the separator, or what a piece holds. -/
theorem mem_intercalate {y : α} {ls : List (List α)} (h : y ∈ [x].intercalate ls) :
    y = x ∨ ∃ l ∈ ls, y ∈ l := by
  induction ls with
  | nil => simp [List.intercalate] at h
  | cons a rest ih =>
    cases rest with
    | nil => exact .inr ⟨a, List.mem_singleton_self a, by simpa [List.intercalate] using h⟩
    | cons b rest =>
      rw [intercalate_cons_cons, List.mem_append, List.mem_cons] at h
      rcases h with h | h | h
      · exact .inr ⟨a, List.mem_cons_self _ _, h⟩
      · exact .inl h
      · rcases ih h with h | ⟨l, hl, hy⟩
        · exact .inl h
        · exact .inr ⟨l, List.mem_cons_of_mem _ hl, hy⟩

theorem mem_intercalate_of_mem {y : α} {ls : List (List α)} {l : List α} (hl : l ∈ ls)
    (hy : y ∈ l) : y ∈ [x].intercalate ls := by
  induction ls with
  | nil => simp at hl
  | cons a rest ih =>
    cases rest with
    | nil => simpa [List.intercalate, List.mem_singleton.mp hl] using hy
    | cons b rest =>
      rw [intercalate_cons_cons, List.mem_append, List.mem_cons]
      rcases List.mem_cons.mp hl with rfl | hl
      · exact .inl hy
      · exact .inr (.inr (ih hl))

end Intercalate

/-- A signature is lowercase hex digits, so it holds no `%` and no `&`. -/
theorem not_mem_hexEncode {b : UInt8} {bs : Bytes} (h : b ∈ hexEncode bs) :
    b ≠ 0x25 ∧ b ≠ 0x26 := by
  have hdigits : ∀ n < 16, hexDigitLower n ≠ 0x25 ∧ hexDigitLower n ≠ 0x26 := by decide
  obtain ⟨c, -, hc⟩ := List.mem_flatMap.mp h
  have hc' : c.toNat < 256 := c.toNat_lt_size
  simp only [List.mem_cons, List.not_mem_nil, or_false] at hc
  rcases hc with rfl | rfl
  · exact hdigits _ (by omega)
  · exact hdigits _ (by omega)

/-- No encoded key or value holds a `&` or an `=`. -/
theorem separators_not_mem_encode (bs : Bytes) :
    (0x26 : UInt8) ∉ utf8PercentEncode awsQueryEncodeSet bs ∧
      (0x3D : UInt8) ∉ utf8PercentEncode awsQueryEncodeSet bs :=
  ⟨not_mem_utf8PercentEncode rfl (by decide) (by decide) bs,
    not_mem_utf8PercentEncode rfl (by decide) (by decide) bs⟩

/-- Cutting at the first `x` of `k ++ x :: v`, when `k` has none. -/
theorem cut_append {x : UInt8} {k : Bytes} (v : Bytes) (hk : x ∉ k) :
    (k ++ x :: v).takeWhile (· ≠ x) = k ∧ (k ++ x :: v).dropWhile (· ≠ x) = x :: v := by
  induction k with
  | nil => simp
  | cons a k ih =>
    rw [List.mem_cons, not_or] at hk
    have ha : decide (a ≠ x) = true := decide_eq_true (Ne.symm hk.1)
    obtain ⟨h1, h2⟩ := ih hk.2
    rw [List.cons_append, List.takeWhile_cons_of_pos (p := fun y => decide (y ≠ x)) ha,
      List.dropWhile_cons_of_pos (p := fun y => decide (y ≠ x)) ha, h1, h2]
    exact ⟨rfl, rfl⟩

theorem parsePiece_append {k v : Bytes} (hk : (0x3D : UInt8) ∉ k) :
    parsePiece (k ++ 0x3D :: v) = decodePair (k, v) := by
  simp only [parsePiece, (cut_append v hk).1, (cut_append v hk).2]
  rfl

/-- Splitting the URL's query on `&` and `=` and decoding gives the encoded pairs,
in their signed order and decoded, then the signature. -/
theorem parseQuery_buildPresignedStsUrl (mac : Bytes → Bytes) (accessKey : String)
    (sessionToken : Option String) (region amzDate : String)
    (hregion : (0x3F : UInt8) ∉ utf8 region) :
    parseQuery (queryOf (buildPresignedStsUrl mac accessKey sessionToken region amzDate)) =
      (sortPairs ((presignParams accessKey region amzDate sessionToken).map
          (encodePair awsQueryEncodeSet ∘ stringPair))).map decodePair ++
      [(utf8 "X-Amz-Signature", presignSignature mac
        (canonicalQuery (presignParams accessKey region amzDate sessionToken)) region)] := by
  set params := presignParams accessKey region amzDate sessionToken
  set sorted := sortPairs (params.map (encodePair awsQueryEncodeSet ∘ stringPair))
  set sig := presignSignature mac (canonicalQuery params) region
  have hperm : List.Perm sorted (params.map (encodePair awsQueryEncodeSet ∘ stringPair)) :=
    sortPairs_perm _
  have hsorted : sorted ≠ [] := fun h => by simpa [h, params, presignParams] using hperm.length_eq
  /- every piece of the query is `k=v`, with `k` and `v` encoded -/
  have hpiece : ∀ p ∈ sorted, (0x26 : UInt8) ∉ p.1 ++ 0x3D :: p.2 ∧
      parsePiece (p.1 ++ 0x3D :: p.2) = decodePair p := by
    intro p hp
    obtain ⟨q, -, rfl⟩ := List.mem_map.mp (hperm.subset hp)
    obtain ⟨h1, h2⟩ := separators_not_mem_encode (stringPair q).1
    refine ⟨?_, parsePiece_append h2⟩
    simp only [List.mem_append, List.mem_cons, not_or]
    exact ⟨h1, by decide, (separators_not_mem_encode (stringPair q).2).1⟩
  /- and so is the signature's -/
  have hsig : (0x26 : UInt8) ∉ utf8 "X-Amz-Signature" ++ 0x3D :: sig ∧
      parsePiece (utf8 "X-Amz-Signature" ++ 0x3D :: sig) = (utf8 "X-Amz-Signature", sig) := by
    refine ⟨?_, ?_⟩
    · simp only [List.mem_append, List.mem_cons, not_or]
      exact ⟨by decide, by decide, fun h => (not_mem_hexEncode h).2 rfl⟩
    · rw [parsePiece_append (by decide)]
      show (percentDecode (utf8 "X-Amz-Signature"), percentDecode sig) = _
      rw [percentDecode_of_not_mem (by decide),
        @percentDecode_of_not_mem sig fun h => (not_mem_hexEncode h).1 rfl]
  have hquery : queryOf (buildPresignedStsUrl mac accessKey sessionToken region amzDate) =
      [0x26].intercalate (sorted.map (fun p => p.1 ++ 0x3D :: p.2) ++
        [utf8 "X-Amz-Signature" ++ 0x3D :: sig]) := by
    have hhost : (0x3F : UInt8) ∉ utf8 ("https://" ++ stsHost region) := by
      simp only [stsHost, utf8_append, List.mem_append, not_or]
      exact ⟨by decide, ⟨by decide, hregion⟩, by decide⟩
    have hamp : utf8 "&X-Amz-Signature=" = 0x26 :: (utf8 "X-Amz-Signature" ++ [0x3D]) := by
      decide
    have hq : utf8 "?" = [0x3F] := rfl
    rw [← intercalate_append_singleton _ (by simpa using hsorted)]
    simp only [buildPresignedStsUrl, queryOf, utf8_append _ "?", hamp, hq, List.append_assoc,
      List.singleton_append, List.cons_append, (cut_append _ hhost).2, List.drop_one,
      List.tail_cons, List.nil_append]
    rfl
  have hsep : ∀ l ∈ sorted.map (fun p => p.1 ++ 0x3D :: p.2) ++
      [utf8 "X-Amz-Signature" ++ 0x3D :: sig], (0x26 : UInt8) ∉ l := by
    intro l hl
    rcases List.mem_append.mp hl with hl | hl
    · obtain ⟨p, hp, rfl⟩ := List.mem_map.mp hl
      exact (hpiece p hp).1
    · exact List.mem_singleton.mp hl ▸ hsig.1
  rw [hquery, parseQuery, List.splitOn_intercalate _ _ hsep (by simp), List.map_append,
    List.map_map, List.map_singleton, hsig.2]
  exact congrArg (· ++ _) (List.map_congr_left fun p hp => (hpiece p hp).2)

theorem decodePair_encodePair (p : Bytes × Bytes) :
    decodePair (encodePair awsQueryEncodeSet p) = p := by
  simp [decodePair, encodePair, percentDecode_utf8PercentEncode (show awsQueryEncodeSet 0x25 = true from rfl)]

/-- The encoded pairs, decoded, are the parameters as built. -/
theorem perm_decodePair_sortPairs (params : List (String × String)) :
    List.Perm ((sortPairs (params.map (encodePair awsQueryEncodeSet ∘ stringPair))).map decodePair)
      (params.map stringPair) := by
  have hperm := (sortPairs_perm (params.map (encodePair awsQueryEncodeSet ∘ stringPair))).map
    decodePair
  rwa [List.map_map, show decodePair ∘ (encodePair awsQueryEncodeSet ∘ stringPair) = stringPair from
    funext fun p => decodePair_encodePair _] at hperm

/-- Reading the URL's query back gives the parameters as built, in the canonical
order, then the signature. -/
theorem presigned_query_reads_back (mac : Bytes → Bytes) (accessKey : String)
    (sessionToken : Option String) (region amzDate : String)
    (hregion : (0x3F : UInt8) ∉ utf8 region) :
    ∃ ps, List.Perm ps ((presignParams accessKey region amzDate sessionToken).map stringPair) ∧
      parseQuery (queryOf (buildPresignedStsUrl mac accessKey sessionToken region amzDate)) =
        ps ++ [(utf8 "X-Amz-Signature", presignSignature mac
          (canonicalQuery (presignParams accessKey region amzDate sessionToken)) region)] :=
  ⟨_, perm_decodePair_sortPairs _,
    parseQuery_buildPresignedStsUrl mac accessKey sessionToken region amzDate hregion⟩

theorem presigned_query_reads_back_usEast1 :
    (0x3F : UInt8) ∉ utf8 "us-east-1" ∧
      ∃ ps, List.Perm ps ((presignParams "AKIDEXAMPLE" "us-east-1" "20240101T000000Z" none).map
          stringPair) ∧
        parseQuery (queryOf (buildPresignedStsUrl (fun _ => []) "AKIDEXAMPLE" none "us-east-1"
          "20240101T000000Z")) =
          ps ++ [(utf8 "X-Amz-Signature", presignSignature (fun _ => [])
            (canonicalQuery (presignParams "AKIDEXAMPLE" "us-east-1" "20240101T000000Z" none))
            "us-east-1")] :=
  ⟨by decide, presigned_query_reads_back _ _ _ _ _ (by decide)⟩

/-! ### The signed query against its SigV4 form -/

theorem mem_utf8PercentEncode_of_mem {set : UInt8 → Bool} {x : UInt8}
    (hx : shouldPercentEncode set x = false) {bs : Bytes} (h : x ∈ bs) :
    x ∈ utf8PercentEncode set bs := by
  induction bs with
  | nil => simp at h
  | cons b bs ih =>
    rw [utf8PercentEncode, List.mem_append]
    rcases List.mem_cons.mp h with rfl | h
    · exact .inl (by simp [hx])
    · exact .inr (ih h)

theorem not_mem_joinQuery {x : UInt8} {ps : List (Bytes × Bytes)} (h26 : x ≠ 0x26)
    (h3d : x ≠ 0x3D) (h : ∀ p ∈ ps, x ∉ p.1 ∧ x ∉ p.2) : x ∉ joinQuery ps := fun hx => by
  rcases mem_intercalate hx with rfl | ⟨l, hl, hxl⟩
  · exact h26 rfl
  · obtain ⟨p, hp, rfl⟩ := List.mem_map.mp hl
    rcases List.mem_append.mp hxl with hxl | hxl
    · exact (h p hp).1 hxl
    · rcases List.mem_cons.mp hxl with rfl | hxl
      · exact h3d rfl
      · exact (h p hp).2 hxl

theorem mem_joinQuery {x : UInt8} {ps : List (Bytes × Bytes)} {p : Bytes × Bytes} (hp : p ∈ ps)
    (h : x ∈ p.1 ∨ x ∈ p.2) : x ∈ joinQuery ps :=
  mem_intercalate_of_mem (List.mem_map_of_mem _ hp) (by
    rcases h with h | h
    · exact List.mem_append_left _ h
    · exact List.mem_append_right _ (List.mem_cons_of_mem _ h))

/-- What sets the eight bytes apart: the code copies them, SigV4 encodes them,
and none is a separator, a `%` or a hex digit. -/
theorem leftUnencoded_bytes : ∀ b ∈ leftUnencoded,
    shouldPercentEncode awsQueryEncodeSet b = false ∧ (!sigV4Unreserved b) = true ∧
      b ≠ 0x25 ∧ b ≠ 0x26 ∧ b ≠ 0x3D ∧ ∀ n < 16, hexDigit n ≠ b := by
  decide

/-- A parameter holding one of the eight bytes is signed with the byte as it is,
while canonicalizing the parameters read back from the URL by the SigV4 rules
encodes it: the two canonical queries differ, whatever the signing key. -/
theorem presigned_query_not_sigV4_canonical (mac : Bytes → Bytes) (accessKey : String)
    (sessionToken : Option String) (region amzDate : String)
    (hregion : (0x3F : UInt8) ∉ utf8 region) {b : UInt8} (hb : b ∈ leftUnencoded)
    (hin : ∃ p ∈ presignParams accessKey region amzDate sessionToken,
      b ∈ utf8 p.1 ∨ b ∈ utf8 p.2) :
    sigV4CanonicalQuery (parseQuery (queryOf
        (buildPresignedStsUrl mac accessKey sessionToken region amzDate))).dropLast ≠
      canonicalQuery (presignParams accessKey region amzDate sessionToken) := by
  obtain ⟨hcopy, hsig, h25, h26, h3d, hhex⟩ := leftUnencoded_bytes b hb
  rw [parseQuery_buildPresignedStsUrl _ _ _ _ _ hregion, List.dropLast_concat]
  /- the SigV4 form encodes every `b` -/
  have hnot : ∀ ps : List (Bytes × Bytes), b ∉ sigV4CanonicalQuery ps := fun ps => by
    refine not_mem_joinQuery h26 h3d fun p hp => ?_
    obtain ⟨q, -, rfl⟩ := List.mem_map.mp ((sortPairs_perm _).subset hp)
    exact ⟨not_mem_utf8PercentEncode hsig h25 hhex _, not_mem_utf8PercentEncode hsig h25 hhex _⟩
  /- the signed form copies it -/
  obtain ⟨p, hp, hbp⟩ := hin
  have hmem : b ∈ canonicalQuery (presignParams accessKey region amzDate sessionToken) :=
    mem_joinQuery (p := (encodePair awsQueryEncodeSet ∘ stringPair) p)
      ((sortPairs_perm _).symm.subset (List.mem_map_of_mem _ hp))
      (hbp.imp (mem_utf8PercentEncode_of_mem hcopy) (mem_utf8PercentEncode_of_mem hcopy))
  exact fun heq => hnot _ (heq ▸ hmem)

/-- A session token `a|b`. -/
theorem presigned_query_not_sigV4_canonical_pipe :
    (0x3F : UInt8) ∉ utf8 "us-east-1" ∧ (0x7C : UInt8) ∈ leftUnencoded ∧
      (∃ p ∈ presignParams "AKIDEXAMPLE" "us-east-1" "20240101T000000Z" (some "a|b"),
        (0x7C : UInt8) ∈ utf8 p.1 ∨ (0x7C : UInt8) ∈ utf8 p.2) ∧
      sigV4CanonicalQuery (parseQuery (queryOf (buildPresignedStsUrl (fun _ => []) "AKIDEXAMPLE"
          (some "a|b") "us-east-1" "20240101T000000Z"))).dropLast ≠
        canonicalQuery (presignParams "AKIDEXAMPLE" "us-east-1" "20240101T000000Z" (some "a|b")) :=
  ⟨by decide, by decide, by decide,
    presigned_query_not_sigV4_canonical _ _ _ _ _ (b := 0x7C) (by decide) (by decide) (by decide)⟩

end AnywhereMesh.Client
