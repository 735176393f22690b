import SolutionScript.Text.Split

/-!
# Hosts in URIs

Which texts can be the host part of a URI, with user and port. A host in
brackets has to be an address of IP version 6, or one of a future version with
its mark; nothing but the user may stand before the brackets and nothing but
the port after them.
-/

namespace SolutionScript.FileSystem.UriHost

/-- Whether a character is a hexadecimal digit. -/
def isHexDigit (c : Char) : Bool :=
  c.isDigit || ('a' ≤ c && c ≤ 'f') || ('A' ≤ c && c ≤ 'F')

/-- Whether a text is a number up to 255 without leading zeros. -/
def isOctet (cs : List Char) : Bool :=
  !cs.isEmpty && cs.all Char.isDigit && cs.length ≤ 3 && (cs.length = 1 || cs.head? ≠ some '0') &&
    cs.foldl (fun n c => n * 10 + (c.toNat - 48)) 0 ≤ 255

/-- Whether a text is an address of IP version 4. -/
def isVersion4 (cs : List Char) : Bool :=
  let parts := Text.splitList '.' cs
  parts.length = 4 && parts.all isOctet

/-- Whether a text is a group of an address of IP version 6. -/
def isGroup (cs : List Char) : Bool := !cs.isEmpty && cs.length ≤ 4 && cs.all isHexDigit

/-- The groups of an address, where an address of IP version 4 at the end counts
as two groups; nothing if what is at the end is no such address. -/
def groupsOf (cs : List Char) : Option (List (List Char)) :=
  let parts := Text.splitList ':' cs
  match parts.getLast? with
  | some last =>
    if last.contains '.' then
      if isVersion4 last then some (parts.dropLast ++ [['0'], ['0']]) else none
    else some parts
  | none => none

/-- Whether the groups on one side of a gap are complete; `outer` is the group
at the end of the address, which may be missing only if it is alone. -/
def isSide (side : List (List Char)) (outer : Option (List Char)) : Bool :=
  if outer = some [] then side.length = 1 else side.all isGroup

/-- The number of groups on one side of a gap. -/
def sideSize (side : List (List Char)) (outer : Option (List Char)) : Nat :=
  if outer = some [] then side.length - 1 else side.length

/-- Whether groups make an address: eight of them, or fewer around one gap. -/
def isAddress (parts : List (List Char)) : Bool :=
  let inner := parts.tail.dropLast
  match (inner.filter (·.isEmpty)).length with
  | 0 => parts.length = 8 && parts.all isGroup
  | 1 =>
    let before := parts.head?.toList ++ inner.takeWhile (!·.isEmpty)
    let after := (inner.dropWhile (!·.isEmpty)).drop 1 ++ parts.getLast?.toList
    isSide before before.head? && isSide after after.getLast? &&
      sideSize before before.head? + sideSize after after.getLast? ≤ 7
  | _ => false

/-- Whether a zone, if there is one, is well-formed. -/
def isZone : List Char → Bool
  | [] => true
  | _ :: zone => !zone.isEmpty && !zone.contains '%'

/-- Whether a text is an address of IP version 6. -/
def isVersion6 (cs : List Char) : Bool :=
  let address := cs.takeWhile (· != '%')
  isZone (cs.dropWhile (· != '%')) &&
    match groupsOf address with
    | some parts => 3 ≤ (Text.splitList ':' address).length && parts.length ≤ 9 && isAddress parts
    | none => false

/-- Whether a text is an address of a future version. -/
def isFuture (cs : List Char) : Bool :=
  match cs with
  | 'v' :: rest =>
    match rest.takeWhile isHexDigit, rest.dropWhile isHexDigit with
    | _ :: _, '.' :: address => !address.isEmpty && !address.contains '\n'
    | _, _ => false
  | _ => false

/-- Whether a text may stand in brackets. -/
def isBracketed (cs : List Char) : Bool :=
  if cs.head? = some 'v' then isFuture cs else isVersion6 cs

/-- The text after the last `@`, or all of it. -/
def afterUser (cs : List Char) : List Char := (cs.reverse.takeWhile (· != '@')).reverse

/-- Whether a host part with brackets is well-formed. -/
def isBracketedHost (cs : List Char) : Bool :=
  let host := afterUser cs
  match Text.splitAtWord ['['] host with
  | some (before, bracketed) =>
    let address := bracketed.takeWhile (· != ']')
    let port := (bracketed.dropWhile (· != ']')).drop 1
    before.isEmpty && (port.isEmpty || port.head? = some ':') && isBracketed address
  | none => isBracketed (host.takeWhile (· != ':'))

/-- Characters that turn into a delimiter of URIs when compatibility forms are
replaced. -/
def isDelimiterForm (c : Char) : Bool :=
  [0x2047, 0x2048, 0x2049, 0x2100, 0x2101, 0x2105, 0x2106, 0x2A74, 0xFE13, 0xFE16, 0xFE55, 0xFE56,
    0xFE5F, 0xFE6B, 0xFF03, 0xFF0F, 0xFF1A, 0xFF1F, 0xFF20].contains c.toNat

/-- Whether a text is a host part that a URI may have. -/
def isHost (cs : List Char) : Bool :=
  let opens := cs.contains '['
  opens == cs.contains ']' && (!opens || isBracketedHost cs) && !cs.any isDelimiterForm

end SolutionScript.FileSystem.UriHost
