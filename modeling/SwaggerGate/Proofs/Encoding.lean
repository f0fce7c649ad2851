import SwaggerGate.Proofs.Entries
import SwaggerGate.Proofs.Target

/-! Encoded URLs. Segments and pairs of a query are escaped one by one, so that no mark of a URL
stands inside them; a URL that is made so is read as the segments and the pairs it was made of. -/
namespace SwaggerGate

namespace Url

/-- A segment, or a name or a value in a query, escaped. -/
def encodePart (part : String) : List Char := percentEncode part.toList

def encodePair (pair : String × String) : List Char := encodePart pair.1 ++ '=' :: encodePart pair.2

def encodePath (segments : List String) : List Char := '/' :: Text.joinWith '/' (segments.map encodePart)

def encodeQuery (pairs : List (String × String)) : List Char := Text.joinWith '&' (pairs.map encodePair)

/-- The URL of a path and of the pairs of a query, if there are any. -/
def encoded (segments : List String) (pairs : List (String × String)) : String :=
  String.ofList (encodePath segments ++ if pairs.isEmpty then [] else '?' :: encodeQuery pairs)

/-- Whether a character is none of an escaped part: it marks where parts end, or is left out. -/
def isMark (c : Char) : Bool := !isUnreserved c && c != '%'

theorem not_mem_encodePart {c : Char} (mark : isMark c = true) (part : String) : c ∉ encodePart part := by
  intro member
  rcases mem_percentEncode member with unreserved | rfl
  · simp [isMark, unreserved] at mark
  · exact absurd mark (by decide)

theorem encodePart_eq_nil {part : String} : encodePart part = [] ↔ part = "" := by
  rw [encodePart, percentEncode_eq_nil, String.toList_eq_nil_iff]

theorem decodePart_encodePart (part : String) : String.ofList (percentDecode (encodePart part)) = part := by
  rw [encodePart, percentDecode_percentEncode, String.ofList_toList]

theorem formDecode_encodePart (part : String) : formDecode (encodePart part) = part := by
  have plain : (encodePart part).map (fun c => if c = '+' then ' ' else c) = encodePart part := by
    refine (List.map_congr_left fun c member => ?_).trans (List.map_id _)
    rw [if_neg, id]
    rintro rfl
    exact not_mem_encodePart (by decide) part member
  rw [formDecode, plain, decodePart_encodePart]

/-- What is read of an encoded path. -/
theorem splitPath_encodePath {segments : List String} (filled : ∀ segment ∈ segments, segment ≠ "") :
    splitPath (String.ofList (encodePath segments)) = segments.map fun segment => String.ofList (encodePart segment) := by
  rw [encodePath, splitPath_slash, splitPath, String.toList_ofList]
  by_cases none_ : segments = []
  · subst none_
    rfl
  have absent : ∀ piece ∈ segments.map encodePart, '/' ∉ piece :=
    List.forall_mem_map.2 fun segment _ => not_mem_encodePart (by decide) segment
  have kept : (segments.map encodePart).filter (!·.isEmpty) = segments.map encodePart := by
    refine List.filter_eq_self.2 (List.forall_mem_map.2 fun segment member => ?_)
    simp [encodePart_eq_nil, filled segment member]
  rw [Text.splitOn_joinWith (fun same => none_ (List.map_eq_nil_iff.1 same)) absent, kept, List.map_map]
  rfl

theorem decodedSegments_encodePath {segments : List String} (filled : ∀ segment ∈ segments, segment ≠ "") :
    decodedSegments (encodePath segments) = segments := by
  rw [decodedSegments, splitPath_encodePath filled, List.map_map]
  refine (List.map_congr_left fun segment _ => ?_).trans (List.map_id _)
  rw [Function.comp_apply, String.toList_ofList, decodePart_encodePart, id]

theorem queryPairs_encodeQuery (pairs : List (String × String)) : queryPairs (encodeQuery pairs) = pairs := by
  by_cases none_ : pairs = []
  · subst none_
    rfl
  have absent : ∀ piece ∈ pairs.map encodePair, '&' ∉ piece := by
    refine List.forall_mem_map.2 fun pair _ => ?_
    simp [encodePair, not_mem_encodePart (c := '&') (by decide)]
  have kept : (pairs.map encodePair).filter (!·.isEmpty) = pairs.map encodePair :=
    List.filter_eq_self.2 (List.forall_mem_map.2 fun pair _ => by simp [encodePair])
  rw [queryPairs, encodeQuery, Text.splitOn_joinWith (fun same => none_ (List.map_eq_nil_iff.1 same)) absent, kept,
    List.map_map]
  refine (List.map_congr_left fun pair _ => ?_).trans (List.map_id _)
  have cut : Text.cut '=' (encodePair pair) = (encodePart pair.1, some (encodePart pair.2)) :=
    Text.cut_append (not_mem_encodePart (by decide) pair.1) _
  simp only [Function.comp_apply, cut, Option.getD_some, formDecode_encodePart, id]

theorem eq_slash_of_mem_encodePath {c : Char} (mark : isMark c = true) {segments : List String}
    (member : c ∈ encodePath segments) : c = '/' := by
  rcases List.mem_cons.1 member with same | member
  · exact same
  rcases Text.mem_joinWith member with same | ⟨piece, inside, member⟩
  · exact same
  · obtain ⟨segment, -, rfl⟩ := List.mem_map.1 inside
    exact absurd member (not_mem_encodePart mark segment)

theorem eq_of_mem_encodeQuery {c : Char} (mark : isMark c = true) {pairs : List (String × String)}
    (member : c ∈ encodeQuery pairs) : c = '&' ∨ c = '=' := by
  rcases Text.mem_joinWith member with same | ⟨piece, inside, member⟩
  · exact .inl same
  · obtain ⟨pair, -, rfl⟩ := List.mem_map.1 inside
    have apart := not_mem_encodePart mark
    simp only [encodePair, List.mem_append, List.mem_cons, apart, false_or, or_false] at member
    exact .inr member

/-- Two slashes would start a host; a segment that is not empty keeps them apart. -/
theorem encodePath_ne {segments : List String} (filled : ∀ segment ∈ segments, segment ≠ "") (tail : List Char) :
    encodePath segments ≠ '/' :: '/' :: tail := by
  intro same
  have inner := (List.cons.inj same).2
  cases segments with
  | nil => cases inner
  | cons segment rest =>
    have some_ : encodePart segment ≠ [] := fun empty => filled segment List.mem_cons_self (encodePart_eq_nil.1 empty)
    obtain ⟨c, more, part⟩ := List.exists_cons_of_ne_nil some_
    have first : c = '/' := by
      cases rest <;> simp only [List.map_cons, List.map_nil, Text.joinWith, part, List.cons_append] at inner <;>
        exact (List.cons.inj inner).1
    have absent := not_mem_encodePart (c := '/') (by decide) segment
    rw [part, first] at absent
    exact absent List.mem_cons_self

theorem toNat_of_isUnreserved {c : Char} (unreserved : isUnreserved c = true) : c.toNat < 128 := by
  have below {a b : Char} (le : a ≤ b) : a.toNat ≤ b.toNat := le
  have small {top : Char} (le : c ≤ top) (ascii : top.toNat < 128) : c.toNat < 128 := by
    have := below le
    omega
  simp only [isUnreserved, Text.isAsciiAlphanumeric, Text.isAsciiDigit, Text.isAsciiLetter, Bool.or_eq_true,
    Bool.and_eq_true, decide_eq_true_eq, beq_iff_eq] at unreserved
  rcases unreserved with ((((digit | lower | upper) | rfl) | rfl) | rfl) | rfl
  · exact small digit.2 (by decide)
  · exact small lower.2 (by decide)
  · exact small upper.2 (by decide)
  all_goals decide

/-- A character that a target does not have is a mark, and none of those of a path or a query. -/
theorem isMark_of_not_isTargetChar {c : Char} (foreign : ¬ isTargetChar c = true) :
    isMark c = true ∧ c ≠ '/' ∧ c ≠ '&' ∧ c ≠ '=' := by
  have cases_ : c = '#' ∨ c = '\t' ∨ c = '\r' ∨ c = '\n' := by
    by_contra other
    simp only [not_or] at other
    exact foreign (by simp [isTargetChar, other])
  rcases cases_ with rfl | rfl | rfl | rfl <;> decide

/-- The raw query of a URL, which is missing if there are no pairs. -/
def query? (pairs : List (String × String)) : Option (List Char) := if pairs.isEmpty then none else some (encodeQuery pairs)

theorem getD_query? (pairs : List (String × String)) : (query? pairs).getD [] = encodeQuery pairs := by
  cases pairs <;> rfl

end Url

namespace Target

open Url

/-- The target of an encoded URL. -/
def ofEncoded (segments : List String) (pairs : List (String × String)) : Target where
  path := encodePath segments
  query := query? pairs
  rooted := rfl
  bounded member := absurd (eq_slash_of_mem_encodePath (by decide) member) (by decide)
  clean := by
    rw [getD_query?, List.all_eq_true]
    intro c member
    by_contra foreign
    obtain ⟨mark, noSlash, noAnd, noEqual⟩ := isMark_of_not_isTargetChar foreign
    rcases List.mem_append.1 member with inPath | inQuery
    · exact noSlash (eq_slash_of_mem_encodePath mark inPath)
    · exact (eq_of_mem_encodeQuery mark inQuery).elim noAnd noEqual
  bytes := by
    rw [getD_query?, List.all_eq_true]
    intro c member
    rw [decide_eq_true_eq]
    by_cases mark : isMark c = true
    · rcases eq_of_mem_encodeQuery mark member with rfl | rfl <;> decide
    · rw [isMark, Bool.and_eq_true, not_and_or] at mark
      rcases mark with unreserved | percent
      · exact (toNat_of_isUnreserved (by simpa using unreserved)).trans (by decide)
      · obtain rfl : c = '%' := by simpa using percent
        decide

theorem text_ofEncoded (segments : List String) (pairs : List (String × String)) :
    (ofEncoded segments pairs).text = encoded segments pairs := by
  cases pairs <;> rfl

/-- An encoded URL is split into its path and its query, and has no host. -/
theorem split?_encoded {segments : List String} (filled : ∀ segment ∈ segments, segment ≠ "")
    (pairs : List (String × String)) : Url.split? (encoded segments pairs).toList =
      some { path := encodePath segments, query := encodeQuery pairs } := by
  have hostless : (ofEncoded segments pairs).host = [] ∧
      (ofEncoded segments pairs).localPath = encodePath segments := by
    rcases (ofEncoded segments pairs).host_cases with ⟨tail, doubled, -⟩ | ⟨-, host, local_⟩
    · exact absurd doubled (encodePath_ne filled tail)
    · exact ⟨host, local_⟩
  have query : (ofEncoded segments pairs).query.getD [] = encodeQuery pairs := getD_query? pairs
  rw [← text_ofEncoded, split?_text, hostless.1, hostless.2, query]
  rfl

end Target

/-- Reading an encoded URL gives what was encoded: the segments, and the parameters that the pairs
write. Path parameters are laid over these, the last of each name over what the pairs write. -/
theorem Request.ofUrl?_encoded {segments : List String} (filled : ∀ segment ∈ segments, segment ≠ "")
    (pairs : List (String × String)) (method : String) (body : Value) :
    Request.ofUrl? method (Url.encoded segments pairs) body [] =
      some { method, segments, params := Query.decode pairs, body } ∧
    ∀ pathParams, ∃ params, Request.ofUrl? method (Url.encoded segments pairs) body pathParams =
        some { method, segments, params, body } ∧
      ∀ key, params.lookup key = (pathParams.reverse.lookup key).or ((Query.decode pairs).lookup key) := by
  have read (pathParams : List (Atom × Value)) : Request.ofUrl? method (Url.encoded segments pairs) body pathParams =
      some { method, segments, params := Entries.putAll (Query.decode pairs) pathParams, body } := by
    have path := Url.decodedSegments_encodePath filled
    rw [Url.decodedSegments] at path
    rw [Request.ofUrl?, Target.split?_encoded filled, Option.map_some, path, Url.queryPairs_encodeQuery]
  exact ⟨read [], fun pathParams => ⟨_, read pathParams, Entries.lookup_putAll _ pathParams⟩⟩

/-- Marks of a URL inside a segment, a name and a value, a name and a value that are empty, and a
path parameter of the name that a pair has. -/
theorem Request.ofUrl?_encoded_marks :
    let segments := ["a/b?", "é+#"]
    let pairs := [("q[]", "x&y=1%"), ("", ""), ("id", "2")]
    Url.encoded segments pairs = "/a%2Fb%3F/%C3%A9%2B%23?q%5B%5D=x%26y%3D1%25&=&id=2" ∧
    (∀ segment ∈ segments, segment ≠ "") ∧
    Request.ofUrl? "GET" (Url.encoded segments pairs) .null [] =
      some { method := "GET", segments, params := Query.decode pairs } ∧
    ∃ params, Request.ofUrl? "GET" (Url.encoded segments pairs) .null [(.text "id", .int 7)] =
        some { method := "GET", segments, params } ∧ params.lookup (.text "id") = some (.int 7) := by
  intro segments pairs
  have filled : ∀ segment ∈ segments, segment ≠ "" := by decide
  obtain ⟨plain, laid⟩ := Request.ofUrl?_encoded filled pairs "GET" .null
  obtain ⟨params, read, lookup⟩ := laid [(.text "id", .int 7)]
  exact ⟨by decide +kernel, filled, plain, params, read, lookup _⟩

end SwaggerGate
