import SwaggerGate.Gate
import SwaggerGate.Proofs.Fault
import SwaggerGate.Proofs.Percent
import SwaggerGate.Proofs.Split
import SwaggerGate.Source

/-! Request targets, read as URLs and as a server hands them to a gate. A URL is cut into
segments before its escapes are undone, and two slashes start a host; a gate sees a decoded
path, and all of it. -/
namespace SwaggerGate

namespace Url

theorem hasSlashEscape_append_slash (front rest : List Char) :
    hasSlashEscape (front ++ '/' :: rest) = (hasSlashEscape front || hasSlashEscape rest) := by
  fun_induction hasSlashEscape front with
  | case1 a b more ih =>
    simp only [List.cons_append, hasSlashEscape] at ih ⊢
    rw [ih, Bool.or_assoc]
  | case2 c more other ih =>
    rw [List.cons_append, ← ih]
    by_cases percent : c = '%'
    · subst percent
      rcases more with _ | ⟨a, _ | ⟨b, more⟩⟩
      · cases rest <;> simp [hasSlashEscape]
      · simp [hasSlashEscape]
      · exact absurd rfl (other a b more rfl)
    · exact hasSlashEscape_of_ne percent _
  | case3 => exact hasSlashEscape_of_ne (by decide) rest

/-- A text has the escape of a slash exactly if a piece between its slashes has one. -/
theorem hasSlashEscape_eq_true_iff (cs : List Char) :
    hasSlashEscape cs = true ↔ ∃ piece ∈ Text.splitOn '/' cs, hasSlashEscape piece = true := by
  induction cs using Text.split_induction '/' with
  | whole piece absent => simp [Text.splitOn_of_not_mem absent]
  | step piece rest absent ih =>
    simp [hasSlashEscape_append_slash, Text.splitOn_append, Text.splitOn_of_not_mem absent, ih]

/-- The segments of a path, each with its escapes undone. -/
def decodedSegments (path : List Char) : List String :=
  (splitPath (String.ofList path)).map fun segment => String.ofList (percentDecode segment.toList)

theorem decodedSegments_append (front rest : List Char) :
    decodedSegments (front ++ '/' :: rest) = decodedSegments front ++ decodedSegments rest := by
  rw [decodedSegments, splitPath_append, List.map_append]
  rfl

/-- A path whose segments have no slashes inside has no escape of one. -/
theorem hasSlashEscape_of_decodedSegments {path : List Char}
    (flat : ∀ segment ∈ decodedSegments path, '/' ∉ segment.toList) : hasSlashEscape path = false := by
  by_contra escaped
  rw [Bool.not_eq_false, hasSlashEscape_eq_true_iff] at escaped
  obtain ⟨piece, member, escaped⟩ := escaped
  have filled : piece ≠ [] := by
    rintro rfl
    exact absurd escaped (by decide)
  apply flat (String.ofList (percentDecode piece))
  · apply List.mem_map.2
    exact ⟨String.ofList piece, mem_splitPath.2 ⟨piece, member, filled, rfl⟩, by rw [String.toList_ofList]⟩
  · rw [String.toList_ofList]
    exact (slash_mem_percentDecode piece).2 (.inr escaped)

private theorem splitPath_percentDecode_piece {piece : List Char} (absent : '/' ∉ piece)
    (plain : hasSlashEscape piece = false) :
    splitPath (String.ofList (percentDecode piece)) = decodedSegments piece := by
  have still : '/' ∉ percentDecode piece := by
    rw [slash_mem_percentDecode]
    simp [absent, plain]
  rw [decodedSegments, splitPath_of_not_mem absent, splitPath_of_not_mem still]
  by_cases empty : piece = []
  · simp [empty, percentDecode_eq_nil]
  · simp [empty, percentDecode_eq_nil]

/-- Without escapes of slashes, a path may be decoded before it is cut into segments. -/
theorem splitPath_percentDecode {path : List Char} (plain : hasSlashEscape path = false) :
    splitPath (String.ofList (percentDecode path)) = decodedSegments path := by
  induction path using Text.split_induction '/' with
  | whole piece absent => exact splitPath_percentDecode_piece absent plain
  | step piece rest absent ih =>
    rw [hasSlashEscape_append_slash, Bool.or_eq_false_iff] at plain
    rw [percentDecode_append_slash, splitPath_append, decodedSegments_append,
      splitPath_percentDecode_piece absent plain.1, ih plain.2]

/-- A host ends at the next slash or where a query starts. -/
theorem span_not_isDelimiter {path mark : List Char} (inside : ∀ c ∈ path, c ≠ '?' ∧ c ≠ '#')
    (stops : ∀ c ∈ mark.head?, c = '?') :
    (path ++ mark).takeWhile (!isDelimiter ·) = path.takeWhile (· != '/') ∧
      (path ++ mark).dropWhile (!isDelimiter ·) = path.dropWhile (· != '/') ++ mark := by
  induction path with
  | nil =>
    cases mark with
    | nil => exact ⟨rfl, rfl⟩
    | cons c mark =>
      obtain rfl := stops c rfl
      exact ⟨rfl, rfl⟩
  | cons c path ih =>
    have ⟨taken, dropped⟩ := ih fun c member => inside c (List.mem_cons_of_mem _ member)
    have ⟨plain, unmarked⟩ := inside c List.mem_cons_self
    have same : (!isDelimiter c) = (c != '/') := by
      simp [isDelimiter, beq_false_of_ne plain, beq_false_of_ne unmarked, bne]
    constructor
    · rw [List.cons_append, List.takeWhile_cons, List.takeWhile_cons, taken, same]
    · rw [List.cons_append, List.dropWhile_cons, List.dropWhile_cons, dropped, same]
      split <;> rfl

theorem cutScheme_slash (rest : List Char) : cutScheme ('/' :: rest) = ([], '/' :: rest) := by
  unfold cutScheme
  split
  next scheme later cuts =>
    have first : scheme.head?.any Text.isAsciiLetter = false := by
      unfold Text.cut at cuts
      split at cuts
      next => cases cuts
      next =>
        cases cuts
        rfl
    simp [first]
  next => rfl

end Url

/-- Whether a character neither starts a fragment nor is one that URLs drop. -/
def isTargetChar (c : Char) : Bool := c != '#' && c != '\t' && c != '\r' && c != '\n'

/-- The target of a request: a path from the root and perhaps a query, and no fragment. The
query is bytes, each as the character of its number. -/
structure Target where
  path : List Char
  query : Option (List Char) := none
  rooted : path.head? = some '/'
  bounded : '?' ∉ path
  clean : (path ++ query.getD []).all isTargetChar = true
  bytes : (query.getD []).all (fun c => decide (c.toNat < 256)) = true

namespace Target

def mark (t : Target) : List Char := match t.query with
  | none => []
  | some query => '?' :: query

def text (t : Target) : String := String.ofList (t.path ++ t.mark)

/-- What a server makes of a request for a target: it undoes the escapes of the path. -/
def received (t : Target) (method : String) : HttpRequest :=
  { method
    path := String.ofList (Url.percentDecode t.path)
    query := (t.query.getD []).map fun c => UInt8.ofNat c.toNat }

/-- What a URL has for its host: the text after two slashes at the start. -/
def host (t : Target) : List Char := match t.path with
  | '/' :: '/' :: tail => tail.takeWhile (· != '/')
  | _ => []

def localPath (t : Target) : List Char := match t.path with
  | '/' :: '/' :: tail => tail.dropWhile (· != '/')
  | path => path

variable (t : Target)

theorem ne_of_mem {c : Char} (member : c ∈ t.path ++ t.query.getD []) : c ≠ '#' ∧ c ≠ '\t' ∧ c ≠ '\r' ∧ c ≠ '\n' := by
  have plain := List.all_eq_true.1 t.clean c member
  simpa [isTargetChar, and_assoc] using plain

theorem ne_of_mem_path {c : Char} (member : c ∈ t.path) : c ≠ '?' ∧ c ≠ '#' := by
  constructor
  · rintro rfl
    exact t.bounded member
  · exact (t.ne_of_mem (List.mem_append_left _ member)).1

theorem ne_of_mem_mark {c : Char} (member : c ∈ t.mark) : c ≠ '#' ∧ c ≠ '\t' ∧ c ≠ '\r' ∧ c ≠ '\n' := by
  unfold mark at member
  split at member
  next => cases member
  next query given =>
    rcases List.mem_cons.1 member with rfl | inside
    · decide
    · apply t.ne_of_mem
      simp [given, inside]

theorem head?_mark : ∀ c ∈ t.mark.head?, c = '?' := by
  intro c first
  unfold mark at first
  split at first
  next => cases first
  next => exact (Option.some.inj first).symm

theorem cut_mark {path : List Char} (inside : path ⊆ t.path) :
    Text.cut '#' (path ++ t.mark) = (path ++ t.mark, none) ∧ Text.cut '?' (path ++ t.mark) = (path, t.query) := by
  constructor
  · apply Text.cut_of_not_mem
    intro member
    rcases List.mem_append.1 member with early | late
    · exact (t.ne_of_mem_path (inside early)).2 rfl
    · exact (t.ne_of_mem_mark late).1 rfl
  · have absent : '?' ∉ path := fun member => t.bounded (inside member)
    unfold mark
    split
    next none_ => rw [List.append_nil, Text.cut_of_not_mem absent, none_]
    next query given => rw [Text.cut_append absent, given]

theorem clean_text {rest : List Char} (rooted : t.path = '/' :: rest) :
    ((t.path ++ t.mark).dropWhile fun c => c.toNat ≤ 32).filter (fun c => c != '\t' && c != '\r' && c != '\n') =
      t.path ++ t.mark := by
  have start : (t.path ++ t.mark).dropWhile (fun c => c.toNat ≤ 32) = t.path ++ t.mark := by
    rw [rooted]
    rfl
  rw [start, List.filter_eq_self]
  intro c member
  have plain : c ≠ '\t' ∧ c ≠ '\r' ∧ c ≠ '\n' := by
    rcases List.mem_append.1 member with early | late
    · exact (t.ne_of_mem (List.mem_append_left _ early)).2
    · exact (t.ne_of_mem_mark late).2
  simp [plain]

/-- A target names a host, or all of its path is local. -/
theorem host_cases :
    (∃ tail, t.path = '/' :: '/' :: tail ∧ t.host = tail.takeWhile (· != '/') ∧
      t.localPath = tail.dropWhile (· != '/')) ∨
    ((∀ tail, t.path ++ t.mark ≠ '/' :: '/' :: tail) ∧ t.host = [] ∧ t.localPath = t.path) := by
  by_cases doubled : ∃ tail, t.path = '/' :: '/' :: tail
  · obtain ⟨tail, doubled⟩ := doubled
    refine .inl ⟨tail, doubled, ?_, ?_⟩
    · simp [host, doubled]
    · simp [localPath, doubled]
  · have apart : ∀ tail, t.path ≠ '/' :: '/' :: tail := fun tail same => doubled ⟨tail, same⟩
    refine .inr ⟨?_, ?_, ?_⟩
    · obtain ⟨rest, rooted⟩ := List.head?_eq_some_iff.1 t.rooted
      intro tail same
      rw [rooted, List.cons_append, List.cons.injEq] at same
      cases rest with
      | nil =>
        have first := t.head?_mark '/' (by rw [← List.nil_append t.mark, same.2]; rfl)
        exact absurd first (by decide)
      | cons c rest =>
        rw [List.cons_append, List.cons.injEq] at same
        exact apart rest (by rw [rooted, same.2.1])
    · unfold host
      split
      next tail same => exact absurd same (apart tail)
      next => rfl
    · unfold localPath
      split
      next tail same => exact absurd same (apart tail)
      next => rfl

theorem split?_text :
    Url.split? t.text.toList =
      if Url.isAuthority t.host then
        some { authority := t.host, path := t.localPath, query := t.query.getD [] }
      else none := by
  obtain ⟨rest, rooted⟩ := List.head?_eq_some_iff.1 t.rooted
  have schemeless : Url.cutScheme (t.path ++ t.mark) = ([], t.path ++ t.mark) := by
    rw [rooted]
    exact Url.cutScheme_slash _
  rw [text, String.toList_ofList, Url.split?]
  simp only [t.clean_text rooted, schemeless]
  rcases t.host_cases with ⟨tail, doubled, host_, local_⟩ | ⟨single, host_, local_⟩
  · have below : tail ⊆ t.path := by
      rw [doubled]
      exact fun c member => List.mem_cons_of_mem _ (List.mem_cons_of_mem _ member)
    have ⟨taken, dropped⟩ := Url.span_not_isDelimiter (fun c member => t.ne_of_mem_path (below member)) t.head?_mark
    have ⟨unfragmented, queried⟩ :=
      t.cut_mark (List.Subset.trans (List.dropWhile_sublist (· != '/') (l := tail)).subset below)
    rw [host_, local_]
    simp only [doubled, List.cons_append, taken, dropped, unfragmented, queried, Option.getD_none]
  · have ⟨unfragmented, queried⟩ := t.cut_mark (List.Subset.refl t.path)
    rw [host_, local_]
    split
    next tail same => exact absurd same (single _)
    next => simp only [unfragmented, queried, Option.getD_none]

theorem hasSlashEscape_localPath (hostless : t.host = []) :
    Url.hasSlashEscape t.localPath = Url.hasSlashEscape t.path := by
  rcases t.host_cases with ⟨tail, doubled, host_, local_⟩ | ⟨-, -, local_⟩
  · have parts := List.takeWhile_append_dropWhile (p := (· != '/')) (l := tail)
    rw [← host_, ← local_, hostless, List.nil_append] at parts
    rw [doubled, Url.hasSlashEscape_of_ne (by decide), Url.hasSlashEscape_of_ne (by decide), parts]
  · rw [local_]

theorem queryText_received (method : String) : (t.received method).queryText = t.query.getD [] := by
  have back : ∀ c ∈ t.query.getD [], Char.ofNat (UInt8.ofNat c.toNat).toNat = c := by
    intro c member
    have byte : c.toNat < 256 := of_decide_eq_true (List.all_eq_true.1 t.bytes c member)
    rw [UInt8.toNat_ofNat', Nat.mod_eq_of_lt byte, Char.ofNat_toNat]
  rw [HttpRequest.queryText, received, List.map_map]
  exact (List.map_congr_left back).trans (List.map_id _)

/-- A gate sees the segments of the host, too. -/
theorem segments_received (method : String) (body : Value) :
    ((t.received method).request body).segments =
      splitPath (String.ofList (Url.percentDecode t.host)) ++
        splitPath (String.ofList (Url.percentDecode t.localPath)) := by
  change splitPath (String.ofList (Url.percentDecode t.path)) = _
  rcases t.host_cases with ⟨tail, doubled, host_, local_⟩ | ⟨-, host_, local_⟩
  · have parts := List.takeWhile_append_dropWhile (p := (· != '/')) (l := tail)
    rw [← host_, ← local_] at parts
    rw [doubled, Url.percentDecode_slash, Url.percentDecode_slash, splitPath_slash, splitPath_slash, ← parts]
    -- the path after a host starts with a slash, so decoding and splitting stop there
    cases rest : t.localPath with
    | nil =>
      rw [List.append_nil]
      exact (List.append_nil _).symm
    | cons c later =>
      obtain rfl : c = '/' := by
        have stopped := List.head_dropWhile_not (l := tail) (· != '/') (by simp [← local_, rest])
        simpa [← local_, rest] using stopped
      rw [Url.percentDecode_append_slash, splitPath_append, Url.percentDecode_slash, splitPath_slash]
  · rw [host_, local_]
    rfl

theorem ofUrl?_text (method : String) (body : Value) :
    Request.ofUrl? method t.text body [] =
      if Url.isAuthority t.host then
        some { (t.received method).request body with segments := Url.decodedSegments t.localPath }
      else none := by
  rw [Request.ofUrl?, split?_text]
  split
  next =>
    simp only [Option.map_some, HttpRequest.request, queryText_received]
    rfl
  next => rfl

theorem ofUrl?_eq_request_iff (method : String) (body : Value) :
    Request.ofUrl? method t.text body [] = some ((t.received method).request body) ↔
      Url.isAuthority t.host = true ∧ splitPath (String.ofList (Url.percentDecode t.host)) = [] ∧
        Url.hasSlashEscape t.localPath = false := by
  have whole := t.segments_received method body
  rw [ofUrl?_text]
  constructor
  · intro same
    split at same
    next fits =>
      have same : Url.decodedSegments t.localPath = ((t.received method).request body).segments :=
        congrArg Request.segments (Option.some.inj same)
      -- an escaped slash would be inside a segment, and a gate's segments have none
      have plain : Url.hasSlashEscape t.localPath = false := by
        apply Url.hasSlashEscape_of_decodedSegments
        rw [same]
        exact fun segment => slash_not_mem_of_mem_splitPath
      rw [Url.splitPath_percentDecode plain, ← same] at whole
      exact ⟨fits, List.self_eq_append_left.1 whole, plain⟩
    next => cases same
  · rintro ⟨fits, unnamed, plain⟩
    rw [unnamed, List.nil_append, Url.splitPath_percentDecode plain] at whole
    rw [if_pos fits, ← whole]

/-- As a URL and before a gate, a target gives the same method, parameters and body. It gives
the same request exactly if its host, decoded, has no segments and no slash of its local path
is escaped; without a host, every registry judges both requests alike. -/
theorem reads_alike_iff (method : String) (body : Value) :
    (∀ r, Request.ofUrl? method t.text body [] = some r →
      r = { (t.received method).request body with segments := r.segments }) ∧
    (Request.ofUrl? method t.text body [] = some ((t.received method).request body) ↔
      Url.isAuthority t.host = true ∧ splitPath (String.ofList (Url.percentDecode t.host)) = [] ∧
        Url.hasSlashEscape t.localPath = false) ∧
    (t.host = [] → Url.hasSlashEscape t.path = false → ∀ registry : Registry,
      (Request.ofUrl? method t.text body []).map (Validation.validate registry) =
        some (Validation.validate registry ((t.received method).request body))) := by
  refine ⟨?_, t.ofUrl?_eq_request_iff method body, ?_⟩
  · intro r found
    rw [ofUrl?_text] at found
    split at found
    next =>
      cases found
      rfl
    next => cases found
  · intro hostless plain registry
    rw [← t.hasSlashEscape_localPath hostless] at plain
    rw [(t.ofUrl?_eq_request_iff method body).2 ⟨by rw [hostless]; rfl, by rw [hostless]; rfl, plain⟩]
    rfl

/-- A target with an escaped blank and a doubled slash. -/
def listing : Target where
  path := "/files//a%20b".toList
  query := some "tags[]=x+y".toList
  rooted := rfl
  bounded := by decide
  clean := by decide
  bytes := by decide

theorem reads_alike_listing : listing.host = [] ∧ Url.hasSlashEscape listing.path = false ∧
    ((listing.received "GET").request .null).segments = ["files", "a b"] ∧ ∀ registry : Registry,
      (Request.ofUrl? "GET" listing.text .null []).map (Validation.validate registry) =
        some (Validation.validate registry ((listing.received "GET").request .null)) := by
  have hostless : listing.host = [] := by decide
  have plain : Url.hasSlashEscape listing.path = false := by decide
  exact ⟨hostless, plain, by decide +kernel, (listing.reads_alike_iff "GET" .null).2.2 hostless plain⟩

def escapedSlash : Target where
  path := "/files/a%2Fb".toList
  rooted := rfl
  bounded := by decide
  clean := by decide
  bytes := by decide

def doubledSlash : Target where
  path := "//files/a".toList
  rooted := rfl
  bounded := by decide
  clean := by decide
  bytes := by decide

/-- A description of files that are read by their names. -/
def filesByName : Value :=
  .record [("paths", .record [("/files/\x7bname\x7d", .record [("get", .record [])])])]

/-- An escaped slash is part of a name in a URL and separates segments before a gate; after
two slashes, a URL takes the first segment for a host. -/
theorem judged_apart : ∃ registry, Source.registry ⟨fun _ => none⟩ [.data filesByName] = .ok registry ∧
    (Request.ofUrl? "GET" escapedSlash.text .null []).map (Validation.validate registry) = some (.ok .ok) ∧
    Validation.validate registry ((escapedSlash.received "GET").request .null) = .ok .notFound ∧
    (Request.ofUrl? "GET" doubledSlash.text .null []).map (Validation.validate registry) = some (.ok .notFound) ∧
    Validation.validate registry ((doubledSlash.received "GET").request .null) = .ok .ok := by
  have found : (Source.registry ⟨fun _ => none⟩ [.data filesByName]).toOption.any (fun registry => decide (
      (Request.ofUrl? "GET" escapedSlash.text .null []).map (Validation.validate registry) = some (.ok .ok) ∧
      Validation.validate registry ((escapedSlash.received "GET").request .null) = .ok .notFound ∧
      (Request.ofUrl? "GET" doubledSlash.text .null []).map (Validation.validate registry) = some (.ok .notFound) ∧
      Validation.validate registry ((doubledSlash.received "GET").request .null) = .ok .ok)) = true := by
    decide +kernel
  obtain ⟨registry, compiled, apart⟩ := any_toOption_eq_true.1 found
  exact ⟨registry, compiled, of_decide_eq_true apart⟩

end Target
end SwaggerGate
