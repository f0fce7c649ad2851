import SwaggerGate.Url.Host

/-! Splitting a URL into its parts, and putting them together again. Leading control
characters and blanks are dropped, tabs and line breaks anywhere removed; then a scheme, an
authority, a fragment and a query are cut off. -/
namespace SwaggerGate

/-- The parts of a URL, without the marks between them; a part that is missing is empty. -/
structure Url where
  scheme : List Char := []
  authority : List Char := []
  path : List Char := []
  query : List Char := []
  fragment : List Char := []
deriving DecidableEq, Repr

namespace Url

def isSchemeChar (c : Char) : Bool :=
  Text.isAsciiAlphanumeric c || c == '+' || c == '-' || c == '.'

/-- The scheme in lower case, and what follows it. -/
def cutScheme (cs : List Char) : List Char × List Char :=
  match Text.cut ':' cs with
  | (scheme, some rest) =>
    if scheme.head?.any Text.isAsciiLetter && scheme.all isSchemeChar then (scheme.map Text.lowerAscii, rest)
    else ([], cs)
  | _ => ([], cs)

def isDelimiter (c : Char) : Bool := c == '/' || c == '?' || c == '#'

/-- Splits a URL; none if its authority is malformed. -/
def split? (url : List Char) : Option Url :=
  let clean := (url.dropWhile fun c => c.toNat ≤ 32).filter fun c => c != '\t' && c != '\r' && c != '\n'
  let (scheme, rest) := cutScheme clean
  let (authority, rest) := match rest with
    | '/' :: '/' :: tail => (tail.takeWhile (!isDelimiter ·), tail.dropWhile (!isDelimiter ·))
    | _ => ([], rest)
  if isAuthority authority then
    let (rest, fragment) := Text.cut '#' rest
    let (path, query) := Text.cut '?' rest
    some { scheme, authority, path, query := query.getD [], fragment := fragment.getD [] }
  else none

/-- The schemes whose URLs have an authority, even an empty one. -/
def schemesWithAuthority : List String :=
  ["", "ftp", "http", "gopher", "nntp", "telnet", "imap", "wais", "file", "mms", "https", "shttp", "snews",
    "prospero", "rtsp", "rtsps", "rtspu", "rsync", "svn", "svn+ssh", "sftp", "nfs", "git", "git+ssh", "ws", "wss"]

def hasAuthorityScheme (url : Url) : Bool := schemesWithAuthority.contains (String.ofList url.scheme)

/-- The text of a URL; empty parts leave no mark, except an authority that the scheme or a
path of two slashes asks for. -/
def text (url : Url) : List Char :=
  let doubled := match url.path with
    | '/' :: '/' :: _ => true
    | _ => false
  let start := if url.authority.isEmpty && !(!url.scheme.isEmpty && url.hasAuthorityScheme) && !doubled then url.path
    else
      let gap := if url.path.isEmpty || url.path.head? == some '/' then [] else ['/']
      '/' :: '/' :: url.authority ++ gap ++ url.path
  (if url.scheme.isEmpty then [] else url.scheme ++ [':']) ++ start
    ++ (if url.query.isEmpty then [] else '?' :: url.query)
    ++ (if url.fragment.isEmpty then [] else '#' :: url.fragment)

end Url
end SwaggerGate
