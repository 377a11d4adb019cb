import Gleaner.Url.Address
import Gleaner.Text.Quoted

/-! # URLs

    A URL is split into scheme, network location, path, query and fragment. Blanks
    and control characters at its head are dropped, and tabs, line feeds and
    carriage returns anywhere; nothing else is decoded or repaired.

    A network location may hold a bracketed address, which is checked, and it may
    not hold code points that turn into delimiters when they are normalised.
-/

namespace Gleaner

structure Url where
  /-- In lower case; empty if there is none. -/
  scheme   : Text
  /-- User information, host and service number; empty if there is none. -/
  netloc   : Text
  path     : Text
  query    : Text
  fragment : Text
  deriving DecidableEq, Repr

namespace Url

/-- Why a network location is refused. -/
inductive Flaw
  | unbalancedBrackets
  | futureAddress
  | bracketedIpv4
  | notAddress (host : Text)
  | disguisedDelimiter (netloc : Text)
  deriving DecidableEq, Repr

def Flaw.message : Flaw → Text
  | unbalancedBrackets => "Invalid IPv6 URL"
  | futureAddress => "IPvFuture address is invalid"
  | bracketedIpv4 => "An IPv4 address cannot be in brackets"
  | notAddress host => host.quoted ++ Text.ofString " does not appear to be an IPv4 or IPv6 address"
  | disguisedDelimiter netloc =>
    Text.ofString "netloc '" ++ netloc ++
      Text.ofString "' contains invalid characters under NFKC normalization"

/-! ## Cutting -/

/-- The text before and after the first `p`; all of it and nothing if there is none. -/
def cutAround (p : CodePoint) (s : Text) : Text × Text :=
  (Text.cutAt? p s).getD (s, [])

/-- A tab, a line feed or a carriage return. -/
def isDropped (p : CodePoint) : Bool :=
  p == .scalar '\t' || p == .scalar '\n' || p == .scalar '\r'

/-- A text without blanks and control characters at its head, and without tabs and
    line ends anywhere. -/
def cleaned (s : Text) : Text :=
  (s.dropWhile fun p => p.toNat ≤ 0x20).filter fun p => !isDropped p

/-- A code point that may stand in a scheme. -/
def isSchemePart (p : CodePoint) : Bool :=
  p.isLetter || p.digit?.isSome || p == .scalar '+' || p == .scalar '-' || p == .scalar '.'

/-- A letter, and then code points that may stand in a scheme. -/
def isScheme (s : Text) : Bool :=
  s.head?.any CodePoint.isLetter && s.all isSchemePart

/-- The scheme in lower case, and what follows its colon. -/
def cutScheme (s : Text) : Text × Text :=
  match Text.cutAt? (.scalar ':') s with
  | some (before, after) =>
    if isScheme before then (before.map CodePoint.asciiLower, after) else ([], s)
  | none => ([], s)

/-- A slash, a question mark or a number sign. -/
def endsNetloc (p : CodePoint) : Bool :=
  p == .scalar '/' || p == .scalar '?' || p == .scalar '#'

/-- The network location after two slashes, and what follows it. -/
def cutNetloc (s : Text) : Text × Text :=
  match s with
  | .scalar '/' :: .scalar '/' :: rest =>
    (rest.takeWhile fun p => !endsNetloc p, rest.dropWhile fun p => !endsNetloc p)
  | s => ([], s)

/-! ## Checking the network location -/

/-- The host of a network location: what stands in brackets, or before the colon. -/
def hostOf (netloc : Text) : Text :=
  let location := Text.afterLast (.scalar '@') netloc
  match Text.cutAt? (.scalar '[') location with
  | some (_, bracketed) => (cutAround (.scalar ']') bracketed).1
  | none => (cutAround (.scalar ':') location).1

/-- Nothing may stand before a bracketed host, and only a colon right after it. -/
def bracketsStandAlone (netloc : Text) : Bool :=
  match Text.cutAt? (.scalar '[') (Text.afterLast (.scalar '@') netloc) with
  | none => true
  | some (before, bracketed) =>
    let after := (cutAround (.scalar ']') bracketed).2
    before.isEmpty && (after.isEmpty || after.head? == some (.scalar ':'))

/-- Checks a host that stands in brackets. -/
def checkBracketed (host : Text) : Except Flaw Unit :=
  if host.head? = some (.scalar 'v') then
    if isFutureAddress host then .ok () else .error .futureAddress
  else if isIpv4 host then .error .bracketedIpv4
  else if isIpv6 host then .ok ()
  else .error (.notAddress host)

/-- Checks the brackets of a network location. -/
def checkBrackets (netloc : Text) : Except Flaw Unit :=
  match decide (CodePoint.scalar '[' ∈ netloc), decide (CodePoint.scalar ']' ∈ netloc) with
  | false, false => .ok ()
  | true, true =>
    if bracketsStandAlone netloc then checkBracketed (hostOf netloc)
    else .error .unbalancedBrackets
  | _, _ => .error .unbalancedBrackets

/-- The code points outside ASCII whose compatibility normal form has one of the
    delimiters slash, question mark, number sign, at sign and colon. -/
def disguises : List Nat :=
  [0x2047, 0x2048, 0x2049, 0x2100, 0x2101, 0x2105, 0x2106, 0x2a74, 0xfe13, 0xfe16, 0xfe55,
   0xfe56, 0xfe5f, 0xfe6b, 0xff03, 0xff0f, 0xff1a, 0xff1f, 0xff20]

/-- Checks a network location for disguised delimiters. -/
def checkDisguises (netloc : Text) : Except Flaw Unit :=
  if netloc.any fun p => disguises.contains p.toNat then .error (.disguisedDelimiter netloc)
  else .ok ()

/-! ## Splitting -/

/-- The parts of a URL. -/
def split (text : Text) : Except Flaw Url := do
  let (scheme, afterScheme) := cutScheme (cleaned text)
  let (netloc, afterNetloc) := cutNetloc afterScheme
  checkBrackets netloc
  let (beforeFragment, fragment) := cutAround (.scalar '#') afterNetloc
  let (path, query) := cutAround (.scalar '?') beforeFragment
  checkDisguises netloc
  return ⟨scheme, netloc, path, query, fragment⟩

/-- The host of a URL, without user information and service number. -/
def host (url : Url) : Text := hostOf url.netloc

end Url

end Gleaner
