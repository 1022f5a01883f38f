import OpReturn.Text.Hex

/-!
# Internet addresses

The two notations of addresses that stand for a computer by number: four decimal numbers between
dots, and up to eight hexadecimal numbers between colons.

* `IpAddress.isV4`, `IpAddress.isV6`: is the text such an address?
-/

namespace OpReturn.IpAddress

/-- Is the text a number below 256, in decimal digits without a zero in front? -/
def isOctet (s : List Char) : Bool :=
  !s.isEmpty && s.all Char.isDigit && s.length ≤ 3 && (s.length = 1 || s.head? ≠ some '0')
    && s.foldl (fun n c => 10 * n + (c.toNat - 48)) 0 < 256

/-- Is the text an address of four numbers? -/
def isV4 (s : List Char) : Bool :=
  let parts := s.splitOnP (· = '.')
  parts.length = 4 && parts.all isOctet

/-- Is the text a number of at most four hexadecimal digits? -/
def isHextet (s : List Char) : Bool :=
  !s.isEmpty && s.length ≤ 4 && s.all fun c => (Hex.digit? c).isSome

/-- The parts between the colons of an address; an address of four numbers at its end counts as
two of them. -/
def hextets? (s : List Char) : Option (List (List Char)) :=
  let parts := s.splitOnP (· = ':')
  let last := parts.getLastD []
  if parts.length < 3 then none
  else if last.contains '.' then
    if isV4 last then some (parts.dropLast ++ [['0'], ['0']]) else none
  else some parts

/-- Are the parts between colons those of an address? One run of zeros may be left out: it leaves
an empty part, and another one at each end of the address that it touches. -/
def areHextets (parts : List (List Char)) : Bool :=
  let inner := parts.tail.dropLast
  let given := parts.filter fun part => !part.isEmpty
  let touchesFront := parts.head? = some []
  let touchesEnd := parts.getLast? = some []
  given.all isHextet &&
    match inner.findIdx? List.isEmpty with
    | none => parts.length = 8 && !touchesFront && !touchesEnd
    | some index =>
      inner.countP List.isEmpty = 1 && given.length < 8 && parts.length ≤ 9
        && (!touchesFront || index = 0) && (!touchesEnd || index + 1 = inner.length)

/-- Is the text an address of hexadecimal numbers? The name of a zone may follow a percent
sign. -/
def isV6 (s : List Char) : Bool :=
  let address := s.takeWhile (· ≠ '%')
  let zoned := match s.dropWhile (· ≠ '%') with
    | [] => true
    | _ :: zone => !zone.isEmpty && !zone.contains '%'
  zoned && (hextets? address).any areHextets

end OpReturn.IpAddress
