import SwaggerGate.CommandLine
import SwaggerGate.Proofs.Target

/-! Query options of the command line. They are appended to the path as text, and the URL that this
makes is split anew: its scheme, its authority and its path are those of the path alone, and the
options are read as far as no `#` has come, without their tabs and line breaks. -/
namespace SwaggerGate

namespace Url

/-! ### Pairs of joined queries -/

theorem queryPairs_append (front rest : List Char) :
    queryPairs (front ++ '&' :: rest) = queryPairs front ++ queryPairs rest := by
  simp only [queryPairs, Text.splitOn_append, List.filter_append, List.map_append]

theorem queryPairs_joinWith (queries : List (List Char)) :
    queryPairs (Text.joinWith '&' queries) = queries.flatMap queryPairs := by
  fun_induction Text.joinWith '&' queries with
  | case1 => rfl
  | case2 query => rw [List.flatMap_singleton]
  | case3 query more _ ih => rw [queryPairs_append, ih, List.flatMap_cons]

/-! ### The stages of a split -/

/-- A text without the characters that URLs leave out wherever they stand. -/
def unbroken (cs : List Char) : List Char := cs.filter fun c => c != '\t' && c != '\r' && c != '\n'

theorem kept_of_late {c : Char} (late : 32 < c.toNat) : (c != '\t' && c != '\r' && c != '\n') = true := by
  have other (d : Char) (early : d.toNat ≤ 32) : c ≠ d := by
    rintro rfl
    omega
  simp [other]

theorem mem_unbroken {c : Char} (late : 32 < c.toNat) {cs : List Char} : c ∈ unbroken cs ↔ c ∈ cs := by
  rw [unbroken, List.mem_filter, and_iff_left (kept_of_late late)]

def clean (url : List Char) : List Char := unbroken (url.dropWhile fun c => c.toNat ≤ 32)

/-- The authority after two slashes, if a text starts with them, and what follows it. -/
def cutAuthority : List Char → List Char × List Char
  | '/' :: '/' :: tail => (tail.takeWhile (!isDelimiter ·), tail.dropWhile (!isDelimiter ·))
  | rest => ([], rest)

/-- The authority of a URL, and its path with all that follows. -/
def authorityAndTail (url : List Char) : List Char × List Char := cutAuthority (cutScheme (clean url)).2

/-- The path and the query of what follows an authority. -/
def pathAndQuery (tail : List Char) : List Char × List Char :=
  let (path, query) := Text.cut '?' (Text.cut '#' tail).1
  (path, query.getD [])

theorem cutAuthority_of_single {cs : List Char} (single : ∀ tail, cs ≠ '/' :: '/' :: tail) :
    cutAuthority cs = ([], cs) := by
  unfold cutAuthority
  split
  next tail => exact absurd rfl (single tail)
  next => rfl

/-- What is read of the path and the query of a URL, stage by stage. -/
theorem split?_stages {α : Type} (read : List Char → List Char → α) (url : List Char) :
    (split? url).map (fun parts => read parts.path parts.query) =
      if isAuthority (authorityAndTail url).1 then
        some (read (pathAndQuery (authorityAndTail url).2).1 (pathAndQuery (authorityAndTail url).2).2)
      else none := by
  unfold split? authorityAndTail clean unbroken
  dsimp only
  generalize cutScheme _ = front
  obtain ⟨scheme, rest⟩ := front
  have parts (authority tail : List Char) :
      (if isAuthority authority then some
          { scheme, authority, path := (Text.cut '?' (Text.cut '#' tail).1).1
            query := (Text.cut '?' (Text.cut '#' tail).1).2.getD [], fragment := (Text.cut '#' tail).2.getD [] : Url }
        else none).map (fun parts => read parts.path parts.query) =
      if isAuthority authority then some (read (pathAndQuery tail).1 (pathAndQuery tail).2) else none := by
    split <;> rfl
  by_cases doubled : ∃ tail, rest = '/' :: '/' :: tail
  · obtain ⟨tail, rfl⟩ := doubled
    exact parts _ _
  · have single : ∀ tail, rest ≠ '/' :: '/' :: tail := fun tail same => doubled ⟨tail, same⟩
    rw [cutAuthority_of_single single]
    dsimp only
    split
    next tail => exact absurd rfl (single tail)
    next => exact parts _ _

section Spliced

variable {mark : Char} (extra : List Char)

theorem clean_append (late : 32 < mark.toNat) (path : List Char) :
    clean (path ++ mark :: extra) = clean path ++ mark :: unbroken extra := by
  have stops : (mark :: extra).dropWhile (fun c => c.toNat ≤ 32) = mark :: extra := by
    rw [List.dropWhile_cons, if_neg (by simpa using late)]
  have start : (path ++ mark :: extra).dropWhile (fun c => c.toNat ≤ 32) =
      path.dropWhile (fun c => c.toNat ≤ 32) ++ mark :: extra := by
    rw [List.dropWhile_append, stops]
    split
    next blank => rw [List.isEmpty_iff.1 blank, List.nil_append]
    next => rfl
  rw [clean, start, unbroken, List.filter_append, List.filter_cons, if_pos (kept_of_late late)]
  rfl

theorem cutScheme_append (foreign : isSchemeChar mark = false) (apart : mark ≠ ':') (cs : List Char) :
    cutScheme (cs ++ mark :: extra) = ((cutScheme cs).1, (cutScheme cs).2 ++ mark :: extra) := by
  unfold cutScheme
  by_cases colon : ':' ∈ cs
  · obtain ⟨scheme, rest, -, -, cuts, grown⟩ := Text.cut_of_mem colon
    rw [cuts, grown]
    simp only
    split <;> rfl
  · -- a colon of the appended text ends no scheme, for the mark stands before it
    rw [Text.cut_of_not_mem colon, Text.cut_front colon, Text.cut_cons apart]
    cases (Text.cut ':' extra).2 with
    | none => rfl
    | some rest => simp [foreign]

theorem span_append {p : Char → Bool} {cs : List Char} (stops : p mark = false ∨ ∃ c ∈ cs, p c = false) :
    (cs ++ mark :: extra).takeWhile p = cs.takeWhile p ∧
      (cs ++ mark :: extra).dropWhile p = cs.dropWhile p ++ mark :: extra := by
  induction cs with
  | nil =>
    have stops : p mark = false := by simpa using stops
    simp [stops]
  | cons c rest ih =>
    by_cases passes : p c = true
    · have ⟨taken, dropped⟩ := ih (by simpa [passes] using stops)
      simp [passes, taken, dropped]
    · simp [passes]

theorem cutAuthority_append (apart : mark ≠ '/') {cs : List Char} (stops : mark = '?' ∨ '?' ∈ cs) :
    cutAuthority (cs ++ mark :: extra) = ((cutAuthority cs).1, (cutAuthority cs).2 ++ mark :: extra) := by
  by_cases doubled : ∃ tail, cs = '/' :: '/' :: tail
  · obtain ⟨tail, rfl⟩ := doubled
    have ends : (!isDelimiter mark) = false ∨ ∃ c ∈ tail, (!isDelimiter c) = false := by
      rcases stops with rfl | inside
      · exact .inl (by decide)
      · exact .inr ⟨'?', by simpa using inside, by decide⟩
    obtain ⟨taken, dropped⟩ := span_append (p := (!isDelimiter ·)) extra ends
    simp only [List.cons_append, cutAuthority, taken, dropped]
  · have single : ∀ tail, cs ++ mark :: extra ≠ '/' :: '/' :: tail := by
      intro tail same
      rcases cs with _ | ⟨c, _ | ⟨d, rest⟩⟩
      · exact apart (List.cons.inj same).1
      · exact apart (List.cons.inj (List.cons.inj same).2).1
      · simp only [List.cons_append, List.cons.injEq] at same
        exact doubled ⟨rest, by rw [same.1, same.2.1]⟩
    rw [cutAuthority_of_single single, cutAuthority_of_single fun tail same => doubled ⟨tail, same⟩]

end Spliced

/-! ### Marks stay where they are -/

private theorem mem_dropWhile {p : Char → Bool} {c : Char} (stops : p c = false) {cs : List Char} :
    c ∈ cs.dropWhile p ↔ c ∈ cs := by
  refine ⟨fun member => (List.dropWhile_sublist p).subset member, fun member => ?_⟩
  rw [← List.takeWhile_append_dropWhile (p := p) (l := cs), List.mem_append] at member
  rcases member with passed | later
  · have passes := List.mem_takeWhile_imp passed
    rw [stops] at passes
    cases passes
  · exact later

theorem mem_clean {c : Char} (late : 32 < c.toNat) {url : List Char} : c ∈ clean url ↔ c ∈ url := by
  rw [clean, mem_unbroken late, mem_dropWhile]
  simpa using late

theorem mem_cutScheme {c : Char} (foreign : isSchemeChar c = false) (apart : c ≠ ':') (cs : List Char) :
    c ∈ (cutScheme cs).2 ↔ c ∈ cs := by
  unfold cutScheme
  split
  next scheme rest cuts =>
    split
    next fits =>
      by_cases colon : ':' ∈ cs
      · obtain ⟨front, rest', -, rfl, cuts', -⟩ := Text.cut_of_mem colon
        obtain ⟨rfl, rfl⟩ : front = scheme ∧ rest' = rest := by simpa using cuts'.symm.trans cuts
        have outside : c ∉ front := by
          intro member
          have inScheme := List.all_eq_true.1 (Bool.and_eq_true_iff.1 fits).2 c member
          rw [foreign] at inScheme
          cases inScheme
        simp [outside, apart]
      · rw [Text.cut_of_not_mem colon] at cuts
        cases cuts
    next => rfl
  next => rfl

theorem mem_cutAuthority {c : Char} (delimits : isDelimiter c = true) (apart : c ≠ '/') (cs : List Char) :
    c ∈ (cutAuthority cs).2 ↔ c ∈ cs := by
  unfold cutAuthority
  split
  next tail =>
    rw [List.mem_cons, List.mem_cons, or_iff_right apart, or_iff_right apart, mem_dropWhile]
    simpa using delimits
  next => rfl

theorem mem_tail {c : Char} (mark : c = '?' ∨ c = '#') {url : List Char} : c ∈ (authorityAndTail url).2 ↔ c ∈ url := by
  rw [authorityAndTail]
  rcases mark with rfl | rfl
  all_goals rw [mem_cutAuthority (by decide) (by decide), mem_cutScheme (by decide) (by decide), mem_clean (by decide)]

/-! ### Texts appended to a path -/

/-- What a URL reads of texts that are appended to each other: nothing behind the first `#`. -/
def beforeHash : List (List Char) → List (List Char)
  | [] => []
  | text :: rest => if '#' ∈ text then [(Text.cut '#' text).1] else text :: beforeHash rest

theorem cut_joinWith (texts : List (List Char)) :
    (Text.cut '#' (Text.joinWith '&' texts)).1 = Text.joinWith '&' (beforeHash texts) := by
  fun_induction Text.joinWith '&' texts with
  | case1 => rfl
  | case2 text =>
    rw [beforeHash]
    split
    next => rfl
    next absent => rw [Text.cut_of_not_mem absent]; rfl
  | case3 text more some_ ih =>
    rw [beforeHash]
    split
    next inside =>
      obtain ⟨front, rest, -, -, cuts, grown⟩ := Text.cut_of_mem inside
      rw [cuts, grown]
      rfl
    next absent =>
      have filled : beforeHash more ≠ [] := by
        cases more with
        | nil => exact absurd rfl some_
        | cons next more =>
          rw [beforeHash]
          split <;> exact List.cons_ne_nil _ _
      rw [Text.cut_front absent, Text.cut_cons (by decide), ih, Text.joinWith_cons filled]

theorem unbroken_joinWith (texts : List (List Char)) :
    unbroken (Text.joinWith '&' texts) = Text.joinWith '&' (texts.map unbroken) := by
  fun_induction Text.joinWith '&' texts with
  | case1 => rfl
  | case2 text => rfl
  | case3 text more some_ ih =>
    rw [List.map_cons, Text.joinWith_cons (by simpa using some_), ← ih, unbroken, List.filter_append, List.filter_cons,
      if_pos (by decide)]
    rfl

theorem pathAndQuery_append {mark : Char} {tail : List Char} (isMark : mark = '?' ∧ '?' ∉ tail ∨ mark = '&' ∧ '?' ∈ tail)
    (extra : List Char) :
    (pathAndQuery (tail ++ mark :: extra)).1 = (pathAndQuery tail).1 ∧
      queryPairs (pathAndQuery (tail ++ mark :: extra)).2 =
        queryPairs (pathAndQuery tail).2 ++ if '#' ∈ tail then [] else queryPairs (Text.cut '#' extra).1 := by
  unfold pathAndQuery
  by_cases hash : '#' ∈ tail
  · obtain ⟨front, rest, -, -, cuts, grown⟩ := Text.cut_of_mem hash
    rw [cuts, grown, if_pos hash, List.append_nil]
    simp
  have apart : mark ≠ '#' := by
    rcases isMark with ⟨rfl, -⟩ | ⟨rfl, -⟩
    all_goals decide
  rw [if_neg hash, Text.cut_of_not_mem hash, Text.cut_front hash, Text.cut_cons apart]
  rcases isMark with ⟨rfl, absent⟩ | ⟨rfl, inside⟩
  · rw [Text.cut_of_not_mem absent, Text.cut_append absent]
    exact ⟨rfl, rfl⟩
  · obtain ⟨front, rest, -, -, cuts, grown⟩ := Text.cut_of_mem inside
    rw [grown, cuts]
    exact ⟨rfl, queryPairs_append rest _⟩

/-- A text that is appended to a path, behind the mark that goes before a query or before more of one,
leaves the path of the URL as it is and adds its pairs as far as no `#` has come. -/
theorem split?_append (path extra : List Char) :
    (split? (path ++ (if '?' ∈ path then '&' else '?') :: extra)).map (fun url => (url.path, queryPairs url.query)) =
      (split? path).map fun url =>
        (url.path, queryPairs url.query ++ if '#' ∈ path then [] else queryPairs (Text.cut '#' (unbroken extra)).1) := by
  generalize marked : (if '?' ∈ path then '&' else '?') = mark
  have isMark : mark = '?' ∧ '?' ∉ path ∨ mark = '&' ∧ '?' ∈ path := by
    subst marked
    by_cases query : '?' ∈ path
    · exact .inr ⟨if_pos query, query⟩
    · exact .inl ⟨if_neg query, query⟩
  have foreign : 32 < mark.toNat ∧ isSchemeChar mark = false ∧ mark ≠ ':' ∧ mark ≠ '/' := by
    rcases isMark with ⟨rfl, -⟩ | ⟨rfl, -⟩
    all_goals decide
  have stops : mark = '?' ∨ '?' ∈ (cutScheme (clean path)).2 := by
    rcases isMark with ⟨rfl, -⟩ | ⟨-, query⟩
    · exact .inl rfl
    · right
      rwa [mem_cutScheme (by decide) (by decide), mem_clean (by decide)]
  have grown : authorityAndTail (path ++ mark :: extra) =
      ((authorityAndTail path).1, (authorityAndTail path).2 ++ mark :: unbroken extra) := by
    rw [authorityAndTail, clean_append extra foreign.1, cutScheme_append _ foreign.2.1 foreign.2.2.1,
      cutAuthority_append _ foreign.2.2.2 stops]
    rfl
  rw [← mem_tail (.inl rfl)] at isMark
  obtain ⟨samePath, pairs⟩ := pathAndQuery_append isMark (unbroken extra)
  rw [split?_stages fun path query => (path, queryPairs query),
    split?_stages fun front query => (front, queryPairs query ++ if '#' ∈ path then [] else _), grown, samePath, pairs]
  simp only [mem_tail (.inr rfl)]

end Url

namespace CommandLine

open Url

/-- The pairs that a URL has from options that are appended to a path. -/
def optionPairs (path : String) (options : List String) : List (String × String) :=
  if '#' ∈ path.toList then []
  else (beforeHash (options.map fun option => unbroken option.toList)).flatMap queryPairs

theorem toList_targetOf {path : String} {options : List String} (some_ : options ≠ []) :
    (targetOf path options).toList =
      path.toList ++ (if '?' ∈ path.toList then '&' else '?') :: Text.joinWith '&' (options.map String.toList) := by
  have joined : (String.intercalate "&" options).toList = Text.joinWith '&' (options.map String.toList) := by
    rw [String.toList_intercalate]
    exact Text.intercalate_eq_joinWith _
  rw [targetOf, List.isEmpty_eq_false_iff.2 some_, if_neg Bool.false_ne_true, String.toList_append, String.toList_append,
    joined, List.append_assoc]
  by_cases query : '?' ∈ path.toList
  · simp [query]
  · simp [query]

theorem split?_targetOf (path : String) (options : List String) :
    (split? (targetOf path options).toList).map (fun url => (url.path, queryPairs url.query)) =
      (split? path.toList).map fun url => (url.path, queryPairs url.query ++ optionPairs path options) := by
  by_cases some_ : options = []
  · subst some_
    simp [targetOf, optionPairs, beforeHash]
  · rw [toList_targetOf some_, split?_append, unbroken_joinWith, cut_joinWith, queryPairs_joinWith, List.map_map]
    rfl

/-- The request that options describe, given its body and the parts of its path. -/
def described (arguments : Arguments) (path : String) (body : Value) (url : Url) : Request :=
  { method := (arguments.value? "--method").getD "GET"
    segments := decodedSegments url.path
    params := Query.decode (queryPairs url.query ++ optionPairs path (arguments.values "--query"))
    body }

theorem ofUrl?_targetOf (arguments : Arguments) (path : String) (body : Value) :
    Request.ofUrl? ((arguments.value? "--method").getD "GET") (targetOf path (arguments.values "--query")) body [] =
      (split? path.toList).map (described arguments path body) := by
  have parts := congrArg (Option.map fun parts : List Char × List (String × String) =>
    ({ method := (arguments.value? "--method").getD "GET", segments := decodedSegments parts.1
       params := Query.decode parts.2, body } : Request)) (split?_targetOf path (arguments.values "--query"))
  rw [Option.map_map, Option.map_map] at parts
  exact parts

theorem requestOf_eq_ok_iff {arguments : Arguments} {path : String} {request : Request} :
    requestOf arguments path = .ok request ↔
      (∀ option ∈ arguments.values "--query", '=' ∈ option.toList) ∧
        ∃ body url, bodyOf arguments = .ok body ∧ split? path.toList = some url ∧
          request = described arguments path body url := by
  unfold requestOf
  dsimp only
  split
  next pair found =>
    refine iff_of_false nofun fun ⟨named, _⟩ => ?_
    have unnamed := List.find?_some found
    simp [named pair (List.mem_of_find?_eq_some found)] at unnamed
  next none_ =>
    have named : ∀ option ∈ arguments.values "--query", '=' ∈ option.toList := by
      intro option member
      simpa using List.find?_eq_none.1 none_ option member
    rw [bind_eq_ok, and_iff_right named]
    refine exists_congr fun body => ?_
    rw [ofUrl?_targetOf, exists_and_left]
    refine and_congr_right fun _ => ?_
    cases split? path.toList with
    | none => simp [throw, throwThe, MonadExceptOf.throw]
    | some url => simp [pure, Except.pure, eq_comm]

/-- Options without a `#`, a tab or a line break, behind a path without `#`, give their pairs. -/
theorem optionPairs_of_plain {path : String} {options : List String} (whole : '#' ∉ path.toList)
    (plain : ∀ option ∈ options, option.toList.all isTargetChar = true) :
    optionPairs path options = options.flatMap fun option => queryPairs option.toList := by
  rw [optionPairs, if_neg whole]
  clear whole
  induction options with
  | nil => rfl
  | cons option rest ih =>
    have chars := List.all_eq_true.1 (plain option List.mem_cons_self)
    have stays : unbroken option.toList = option.toList := by
      rw [unbroken, List.filter_eq_self]
      intro c member
      have clean := chars c member
      rw [isTargetChar, Bool.and_assoc, Bool.and_assoc, Bool.and_eq_true] at clean
      rw [Bool.and_assoc]
      exact clean.2
    have absent : '#' ∉ option.toList := fun member => absurd (chars '#' member) (by decide)
    rw [List.map_cons, stays, beforeHash, if_neg absent, List.flatMap_cons, List.flatMap_cons,
      ih fun other member => plain other (List.mem_cons_of_mem _ member)]

/-- The request that is built of options. All that is read of the path alone stays as it is, its own pairs
come first, and those of the options follow; but options are read no further than to a `#`, of the path or of
their own, and without tabs and line breaks. Where there are none, each option gives its pairs as it
would by itself. -/
theorem options_read (arguments : Arguments) (path : String) :
    (∀ request, requestOf arguments path = .ok request ↔
      (∀ option ∈ arguments.values "--query", '=' ∈ option.toList) ∧
        ∃ body url, bodyOf arguments = .ok body ∧ split? path.toList = some url ∧
          request = described arguments path body url) ∧
    ('#' ∉ path.toList → (∀ option ∈ arguments.values "--query", option.toList.all isTargetChar = true) →
      ∀ body url, (described arguments path body url).params =
        Query.decode (queryPairs url.query ++ (arguments.values "--query").flatMap fun option => queryPairs option.toList)) := by
  refine ⟨fun request => requestOf_eq_ok_iff, fun whole plain body url => ?_⟩
  rw [described, optionPairs_of_plain whole plain]

/-- Options with marks of their own: two pairs in one option, a question mark, a plus sign, and a `#` that is
escaped. -/
def browsing : Arguments :=
  { options := [("--query", "q=a&b=?c"), ("--method", "PUT"), ("--query", "tags[]=x+y"), ("--query", "tags[]=%23")]
    operands := [] }

theorem options_read_browsing : ∃ request, requestOf browsing "//host/x?a=1&" = .ok request ∧
    request.method = "PUT" ∧ request.segments = ["x"] ∧
    request.params = [(.text "a", .text "1"), (.text "q", .text "a"), (.text "b", .text "?c"),
      (.text "tags", .texts ["x y", "#"])] := by
  obtain ⟨built, plain⟩ := options_read browsing "//host/x?a=1&"
  have parts : split? "//host/x?a=1&".toList =
      some { authority := "host".toList, path := "/x".toList, query := "a=1&".toList } := by
    decide +kernel
  refine ⟨_, (built _).2 ⟨by decide, .null, _, rfl, parts, rfl⟩, rfl, by decide +kernel, ?_⟩
  rw [plain (by decide) (by decide)]
  decide +kernel

/-- The pairs of a path and of options, each read by itself. -/
def separatePairs (path : String) (options : List String) : List (String × String) :=
  ((split? path.toList).map fun url => queryPairs url.query).getD [] ++ options.flatMap fun option => queryPairs option.toList

/-- A `#` in the path loses every option; one in an option cuts it, and the options behind it are lost; and a
tab in an option is left out. -/
theorem options_lost :
    (requestOf { options := [("--query", "q=1")], operands := [] } "/x#top").map Request.params = .ok [] ∧
    Query.decode (separatePairs "/x#top" ["q=1"]) = [(.text "q", .text "1")] ∧
    (requestOf { options := [("--query", "c=#fff"), ("--query", "q=1")], operands := [] } "/x").map Request.params =
      .ok [(.text "c", .text "")] ∧
    Query.decode (separatePairs "/x" ["c=#fff", "q=1"]) = [(.text "c", .text "#fff"), (.text "q", .text "1")] ∧
    (requestOf { options := [("--query", "q=a\tb")], operands := [] } "/x").map Request.params =
      .ok [(.text "q", .text "ab")] ∧
    Query.decode (separatePairs "/x" ["q=a\tb"]) = [(.text "q", .text "a\tb")] := by
  decide +kernel

end CommandLine
end SwaggerGate
