import SwaggerGate.Url

/-! Relative URLs. A reference is joined to a base part by part; a path is joined segment
by segment, and steps upward take segments away. -/
namespace SwaggerGate.Url

/-- The schemes whose URLs can be relative. -/
def relativeSchemes : List String :=
  ["", "ftp", "http", "gopher", "nntp", "imap", "wais", "file", "https", "shttp", "mms", "prospero", "rtsp",
    "rtsps", "rtspu", "sftp", "svn", "svn+ssh", "ws", "wss"]

/-- The schemes whose last path segment can have parameters. -/
def parameterSchemes : List String :=
  ["", "ftp", "hdl", "prospero", "http", "imap", "https", "shttp", "rtsp", "rtsps", "rtspu", "sip", "sips", "mms",
    "sftp", "tel"]

/-- Splits the parameters, which follow a semicolon, off the last segment of a path. -/
def cutParameters (scheme path : List Char) : List Char × List Char :=
  if parameterSchemes.contains (String.ofList scheme) then
    let last := (path.reverse.takeWhile (· != '/')).reverse
    let leading := path.take (path.length - last.length)
    match Text.cut ';' last with
    | (segment, some parameters) => (leading ++ segment, parameters)
    | _ => (path, [])
  else (path, [])

def withParameters (path parameters : List Char) : List Char :=
  if parameters.isEmpty then path else path ++ ';' :: parameters

/-- A URL without an empty mark of parameters. -/
def tidied (url : Url) : Url :=
  let (path, parameters) := cutParameters url.scheme url.path
  { url with path := withParameters path parameters }

private def isUpward (segment : List Char) : Bool := segment == ['.', '.']

private def isHere (segment : List Char) : Bool := segment == ['.']

/-- Takes segments in order, the latest first: a step upward takes one away if there is one. -/
def climb : List (List Char) → List (List Char) → List (List Char)
  | taken, [] => taken
  | taken, segment :: rest =>
    if isUpward segment then climb taken.tail rest
    else if isHere segment then climb taken rest
    else climb (segment :: taken) rest

/-- Segments without the empty ones inside. -/
private def withoutInnerGaps : List (List Char) → List (List Char)
  | first :: rest => match rest.getLast? with
    | some last => first :: rest.dropLast.filter (!·.isEmpty) ++ [last]
    | none => [first]
  | [] => []

/-- Joins a path to the path of a base; a path from the root stays. -/
def joinPaths (base path : List Char) : List Char :=
  let segments := if path.head? = some '/' then Text.splitOn '/' path
    else
      let known := Text.splitOn '/' base
      let directory := if known.getLast? = some [] then known else known.dropLast
      withoutInnerGaps (directory ++ Text.splitOn '/' path)
  let taken := climb [] segments
  let ending := segments.getLast?.any fun segment => isUpward segment || isHere segment
  let joined := Text.joinWith '/' ((if ending then [] :: taken else taken).reverse)
  if joined.isEmpty then ['/'] else joined

/-- The URL that a reference means, seen from a base; none if either is malformed. -/
def join? (base reference : List Char) : Option (List Char) :=
  if base.isEmpty then some reference
  else if reference.isEmpty then some base
  else do
    let known ← split? base
    let url ← split? reference
    let url := if url.scheme.isEmpty then { url with scheme := known.scheme } else url
    if url.scheme ≠ known.scheme ∨ !relativeSchemes.contains (String.ofList url.scheme) then return reference
    if url.hasAuthorityScheme && !url.authority.isEmpty then return url.tidied.text
    let url := if url.hasAuthorityScheme then { url with authority := known.authority } else url
    let (path, parameters) := cutParameters url.scheme url.path
    let (knownPath, knownParameters) := cutParameters known.scheme known.path
    if path.isEmpty && parameters.isEmpty then
      return { url with
        path := withParameters knownPath knownParameters
        query := if url.query.isEmpty then known.query else url.query }.text
    return { url with path := withParameters (joinPaths knownPath path) parameters }.text

/-- A URL without its fragment, and the fragment; none if the URL is malformed. -/
def cutFragment? (url : List Char) : Option (List Char × List Char) :=
  if url.contains '#' then (split? url).map fun parts => ({ parts with fragment := [] }.tidied.text, parts.fragment)
  else some (url, [])

end SwaggerGate.Url
