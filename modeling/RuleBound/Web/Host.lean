import RuleBound.Text.Hex

/-!
Hosts in brackets. Brackets hold an address of version 6, perhaps with the name of a zone, or an
address of a version to come; nothing but a user may stand before them, nothing but a port behind.
-/

namespace RuleBound.Web

/-- What is wrong with the host of an address. -/
inductive HostFault
  /-- The brackets do not match, or something else stands beside them. -/
  | brackets
  /-- An address of a version to come is not of its form. -/
  | future
  /-- An address of version 4 needs no brackets. -/
  | version4
  /-- A text is no address. -/
  | notAddress (text : String)
  /-- A character stands for a delimiter. -/
  | character (host : String)
  deriving DecidableEq, Repr

/-- A host fault in words. -/
def HostFault.message : HostFault → String
  | brackets => "Invalid IPv6 URL"
  | future => "IPvFuture address is invalid"
  | version4 => "An IPv4 address cannot be in brackets"
  | notAddress text => Text.quoted text ++ " does not appear to be an IPv4 or IPv6 address"
  | character host => "netloc " ++ host ++ " contains invalid characters under NFKC normalization"

/-- The parts of characters between separators. -/
def parts (separator : Char) : List Char → List (List Char)
  | [] => [[]]
  | c :: rest =>
    match parts separator rest with
    | [] => [[c]]
    | first :: others => if c = separator then [] :: first :: others else (c :: first) :: others

/-- Whether characters are a number from 0 to 255 in decimal digits, without needless zeros. -/
def isOctet (cs : List Char) : Bool :=
  !cs.isEmpty && cs.length ≤ 3 && cs.all Char.isDigit && (cs = ['0'] || cs.head? != some '0') &&
    cs.foldl (fun n c => n * 10 + (c.toNat - 48)) 0 ≤ 255

/-- Whether characters are an address of version 4. -/
def isVersion4 (cs : List Char) : Bool :=
  let octets := parts '.' cs
  octets.length = 4 && octets.all isOctet

/-- Whether characters are one to four hexadecimal digits. -/
def isGroup (cs : List Char) : Bool := !cs.isEmpty && cs.length ≤ 4 && cs.all Text.isHexDigit

/-- Groups with an address of version 4 at their end replaced by the two groups it takes. -/
def plainGroups? (groups : List (List Char)) : Option (List (List Char)) :=
  match groups.getLast? with
  | some last =>
    if last.contains '.' then
      if isVersion4 last then some (groups.dropLast ++ [['0'], ['0']]) else none
    else some groups
  | none => none

/-- Whether groups fill an address: eight of them without a gap, at most seven around one. A gap at
an end leaves an empty group there. -/
def fillsAddress (groups : List (List Char)) : Bool :=
  match (((groups.drop 1).dropLast).filter List.isEmpty).length with
  | 0 => groups.length = 8 && groups.all isGroup
  | 1 =>
    let high := groups.takeWhile fun g => !g.isEmpty
    let low := (groups.reverse.takeWhile fun g => !g.isEmpty).reverse
    let ends := (if high.isEmpty then 1 else 0) + (if low.isEmpty then 1 else 0)
    groups.length = high.length + low.length + 1 + ends && high.length + low.length ≤ 7 &&
      high.all isGroup && low.all isGroup
  | _ => false

/-- Whether characters are an address of version 6, perhaps with a zone behind a percent sign. -/
def isVersion6 (cs : List Char) : Bool :=
  let address := cs.takeWhile (· != '%')
  let zone := cs.dropWhile (· != '%')
  let zoneFits := match zone with
    | [] => true
    | _ :: zone => !zone.isEmpty && !zone.contains '%'
  let groups := parts ':' address
  zoneFits && 3 ≤ groups.length && (plainGroups? groups).any fillsAddress

/-- Whether characters are an address of a version to come: its number in hexadecimal digits, a
point and something more. -/
def isFuture (cs : List Char) : Bool :=
  match cs with
  | 'v' :: rest =>
    let number := rest.takeWhile Text.isHexDigit
    match rest.dropWhile Text.isHexDigit with
    | '.' :: more => !number.isEmpty && !more.isEmpty
    | _ => false
  | _ => false

/-- What is wrong with the text in brackets. -/
def bracketedFault? (cs : List Char) : Option HostFault :=
  if cs.head? = some 'v' then if isFuture cs then none else some .future
  else if isVersion4 cs then some .version4
  else if isVersion6 cs then none
  else some (.notAddress (String.ofList cs))

/-- What is wrong with a host that holds both brackets. -/
def bracketFault? (host : List Char) : Option HostFault :=
  let place := (host.reverse.takeWhile (· != '@')).reverse
  match place.takeWhile (· != '['), place.dropWhile (· != '[') with
  | [], _ :: rest =>
    let inner := rest.takeWhile (· != ']')
    let port := (rest.dropWhile (· != ']')).drop 1
    if !port.isEmpty && port.head? != some ':' then some .brackets else bracketedFault? inner
  | _, [] => bracketedFault? (place.takeWhile (· != ':'))
  | _, _ => some .brackets

/-- What is wrong with the brackets of a host. -/
def hostFault? (host : List Char) : Option HostFault :=
  if host.contains '[' != host.contains ']' then some .brackets
  else if host.contains '[' then bracketFault? host
  else none

end RuleBound.Web
