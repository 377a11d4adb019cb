import Gleaner.Text.Basic

/-! # Internet addresses

    Which texts are written IPv4 and IPv6 addresses. An IPv4 address has four
    decimal parts without leading zeros. An IPv6 address has eight hexadecimal
    parts, of which a run may be left out once, written as two colons; the last two
    parts may be written as an IPv4 address, and a scope may follow a percent sign.
-/

namespace Gleaner.Url

/-- A decimal number up to 255 without leading zeros. -/
def isOctet (s : Text) : Bool :=
  let digits := s.filterMap CodePoint.digit?
  digits.length = s.length && (s == [.scalar '0'] || s.head? != some (.scalar '0')) &&
    1 ≤ s.length && s.length ≤ 3 && Text.digitsValue digits ≤ 255

/-- Four octets between points. -/
def isIpv4 (s : Text) : Bool :=
  let parts := Text.splitAt (.scalar '.') s
  parts.length = 4 && parts.all isOctet

/-- One to four hexadecimal digits. -/
def isHextet (s : Text) : Bool :=
  1 ≤ s.length && s.length ≤ 4 && s.all fun p => p.hexDigit?.isSome

/-- The parts between colons, an IPv4 address at the end counting as two parts.
    `none` if the last part has points and is no IPv4 address. -/
def colonParts? (s : Text) : Option (List Text) :=
  let parts := Text.splitAt (.scalar ':') s
  match parts.getLast? with
  | none => none
  | some last =>
    if .scalar '.' ∉ last then some parts
    else if isIpv4 last then some (parts.dropLast ++ [Text.ofString "0", Text.ofString "0"])
    else none

/-- The positions of the empty parts that are neither first nor last. -/
def innerGaps (parts : List Text) : List Nat :=
  (List.range parts.length).filter fun i =>
    0 < i && i + 1 < parts.length && parts[i]? == some []

/-- The parts on one side of a gap, where an empty part at the end of the address
    belongs to the gap and must stand alone. -/
def sideOfGap? (side : List Text) (outer : Option Text) : Option (List Text) :=
  if outer = some [] then (if side.length = 1 then some [] else none) else some side

/-- Whether parts between colons make an address: eight of them, or fewer around
    one gap. -/
def arePartsOfAddress (parts : List Text) : Bool :=
  match innerGaps parts with
  | [] => parts.length = 8 && parts.all isHextet
  | [gap] =>
    match sideOfGap? (parts.take gap) parts.head?,
        sideOfGap? (parts.drop (gap + 1)) parts.getLast? with
    | some high, some low =>
      high.length + low.length < 8 && high.all isHextet && low.all isHextet
    | _, _ => false
  | _ => false

/-- An IPv6 address with or without a scope, which is not empty and has no second
    percent sign. -/
def isIpv6 (s : Text) : Bool :=
  let (address, scopeFits) := match Text.cutAt? (.scalar '%') s with
    | none => (s, true)
    | some (address, scope) => (address, !scope.isEmpty && .scalar '%' ∉ scope)
  scopeFits && (Text.splitAt (.scalar ':') address).length ≥ 3 &&
    (match colonParts? address with
      | some parts => parts.length ≤ 9 && arePartsOfAddress parts
      | none => false)

/-- An address of a later version: the letter v, hexadecimal digits, a point, and at
    least one more code point. -/
def isFutureAddress (s : Text) : Bool :=
  match s with
  | .scalar 'v' :: rest =>
    let isHex (p : CodePoint) : Bool := p.hexDigit?.isSome
    match rest.takeWhile isHex, rest.dropWhile isHex with
    | _ :: _, .scalar '.' :: _ :: _ => true
    | _, _ => false
  | _ => false

end Gleaner.Url
