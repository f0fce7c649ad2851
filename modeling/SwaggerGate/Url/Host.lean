import SwaggerGate.Text.Digits
import SwaggerGate.Text.Split

/-! Hosts of a URL authority: addresses in brackets, and characters that would turn into
delimiters when a host name is normalised. -/
namespace SwaggerGate.Url

private def isOctet (cs : List Char) : Bool :=
  !cs.isEmpty && cs.length ≤ 3 && cs.all Text.isAsciiDigit && (cs.length == 1 || cs.head? != some '0')
    && Text.decimalNumber cs ≤ 255

private def isDottedQuad (cs : List Char) : Bool :=
  let octets := Text.splitOn '.' cs
  octets.length == 4 && octets.all isOctet

private def isHextet (cs : List Char) : Bool :=
  !cs.isEmpty && cs.length ≤ 4 && cs.all fun c => (Text.hexDigit? c).isSome

/-- The groups between colons, a dotted quad at the end counting as two groups. -/
private def groups? (cs : List Char) : Option (List (List Char)) :=
  let parts := Text.splitOn ':' cs
  if parts.length < 3 then none
  else match parts.getLast? with
    | some last =>
      if last.contains '.' then
        if isDottedQuad last then some (parts.dropLast ++ [['0'], ['0']]) else none
      else some parts
    | none => none

/-- Eight groups, or fewer around one empty group; an empty end needs the empty group beside it. -/
private def groupsFit (parts : List (List Char)) : Bool :=
  let inner := (parts.drop 1).dropLast
  if parts.length > 9 then false
  else match inner.findIdx? (·.isEmpty) with
    | none => parts.length == 8 && parts.all isHextet
    | some at_ =>
      let before := parts.take (at_ + 1)
      let after := parts.drop (at_ + 2)
      let before := if before.head? == some [] then before.drop 1 else before
      let openStart := parts.head? == some []
      let openEnd := parts.getLast? == some []
      let after := if openEnd then after.dropLast else after
      (!openStart || before.isEmpty) && (!openEnd || after.isEmpty)
        && before.length + after.length ≤ 7 && before.all isHextet && after.all isHextet

private def isSixAddress (cs : List Char) : Bool :=
  let (address, zone) := Text.cut '%' cs
  let zoneFits := match zone with
    | none => true
    | some z => !z.isEmpty && !z.contains '%'
  zoneFits && !cs.contains '/' && match groups? address with
    | some parts => groupsFit parts
    | none => false

private def isFutureAddress (cs : List Char) : Bool :=
  match Text.cut '.' (cs.drop 1) with
  | (version, some rest) =>
    !version.isEmpty && version.all (fun c => (Text.hexDigit? c).isSome) && !rest.isEmpty
      && !rest.contains '\n'
  | _ => false

/-- Whether the text between the brackets of an authority is an address. -/
def isBracketedAddress (cs : List Char) : Bool :=
  if cs.head? = some 'v' then isFutureAddress cs else isSixAddress cs

/-- Characters whose compatibility form holds a delimiter of a URL. -/
def hiddenDelimiters : List Nat :=
  [0x2047, 0x2048, 0x2049, 0x2100, 0x2101, 0x2105, 0x2106, 0x2a74, 0xfe13, 0xfe16, 0xfe55,
    0xfe56, 0xfe5f, 0xfe6b, 0xff03, 0xff0f, 0xff1a, 0xff1f, 0xff20]

/-- What follows the last at sign of an authority: the host and its port. -/
def hostAndPort (authority : List Char) : List Char :=
  (authority.reverse.takeWhile (· != '@')).reverse

/-- Whether brackets stand right: the host and nothing else is in brackets and an address.
Where brackets stand before the host only, the host must be an address all the same. -/
def bracketsFit (authority : List Char) : Bool :=
  match Text.cut '[' (hostAndPort authority) with
  | (before, some inside) =>
    let (address, port) := Text.cut ']' inside
    let port := port.getD []
    before.isEmpty && (port.isEmpty || port.head? == some ':') && isBracketedAddress address
  | (host, none) => isBracketedAddress (Text.cut ':' host).1

/-- Whether an authority can be taken as it stands: brackets are around the host, and no
character hides a delimiter. -/
def isAuthority (cs : List Char) : Bool :=
  let opened := cs.contains '['
  let closed := cs.contains ']'
  (opened == closed) && (!opened || bracketsFit cs) && cs.all fun c => !hiddenDelimiters.contains c.toNat

end SwaggerGate.Url
