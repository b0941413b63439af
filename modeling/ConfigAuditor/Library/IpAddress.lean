import ConfigAuditor.Library.Text

/-!
# IPv4 and IPv6 addresses and networks

The text readers and writers of the Python 3.13 `ipaddress` module: dotted quads
without leading zeros, compressed hextets, an IPv4 tail, zone identifiers, and
networks given by a prefix length, a netmask or a host mask.
-/
namespace ConfigAuditor.Library

/-- An IPv4 address, or an IPv6 address with an optional zone. -/
inductive IpAddress where
  | v4 (value : Nat)
  | v6 (value : Nat) (zone : Option String)
  deriving DecidableEq, Repr

namespace IpAddress

def asciiNumber (cs : List Char) : Nat := cs.foldl (fun n c => 10 * n + (c.toNat - 48)) 0

/-- `_parse_octet`. -/
def parseOctet (cs : List Char) : Option Nat :=
  if cs.isEmpty || !cs.all Text.isAsciiDigit || 3 < cs.length then none
  else if cs != ['0'] && cs.head? == some '0' then none
  else if 255 < asciiNumber cs then none
  else some (asciiNumber cs)

/-- `_ip_int_from_string` of an IPv4 address. -/
def parseV4 (cs : List Char) : Option Nat :=
  match Text.splitAll '.' cs with
  | [a, b, c, d] => do
    let a ← parseOctet a
    let b ← parseOctet b
    let c ← parseOctet c
    let d ← parseOctet d
    return ((a * 256 + b) * 256 + c) * 256 + d
  | _ => none

def hexValue (c : Char) : Option Nat :=
  let n := c.toNat
  if 48 ≤ n && n ≤ 57 then some (n - 48)
  else if 97 ≤ n && n ≤ 102 then some (n - 87)
  else if 65 ≤ n && n ≤ 70 then some (n - 55)
  else none

/-- `_parse_hextet`. -/
def parseHextet (cs : List Char) : Option Nat :=
  if cs.isEmpty || 4 < cs.length then none
  else cs.foldlM (fun n c => (hexValue c).map (16 * n + ·)) 0

def parseHextets (parts : List (List Char)) : Option Nat :=
  parts.foldlM (fun n part => (parseHextet part).map (65536 * n + ·)) 0

def hexText (n : Nat) : List Char := Nat.toDigits 16 n

/-- The parts between colons, with an IPv4 tail rewritten to two hextets. -/
def v6Parts (cs : List Char) : Option (List (List Char)) :=
  let parts := Text.splitAll ':' cs
  if parts.length < 3 then none
  else match parts.getLast? with
    | some last =>
      if last.contains '.' then
        (parseV4 last).map fun v4 =>
          parts.dropLast ++ [hexText (v4 / 65536 % 65536), hexText (v4 % 65536)]
      else some parts
    | none => none

/-- The index of the one empty part away from both ends; two of them are an error. -/
def skipIndex (parts : List (List Char)) : Option (Option Nat) :=
  match (List.range parts.length).filter fun i =>
      1 ≤ i && i + 1 < parts.length && (parts.getD i []).isEmpty with
  | [] => some none
  | [i] => some (some i)
  | _ => none

/-- `_ip_int_from_string` of an IPv6 address. -/
def parseV6 (cs : List Char) : Option Nat := do
  let parts ← v6Parts cs
  if 9 < parts.length then none
  let skip ← skipIndex parts
  let first := parts.headD []
  let last := parts.getLastD []
  match skip with
  | some i =>
    let high := if first.isEmpty then i - 1 else i
    let low := if last.isEmpty then parts.length - i - 2 else parts.length - i - 1
    if first.isEmpty && high != 0 then none
    if last.isEmpty && low != 0 then none
    if 8 < high + low + 1 then none
    let upper ← parseHextets (parts.take high)
    let lower ← parseHextets (parts.drop (parts.length - low))
    return upper * 65536 ^ (8 - high) + lower
  | none =>
    if parts.length != 8 || first.isEmpty || last.isEmpty then none
    parseHextets parts

/-- `IPv6Address(text)`, with its zone. -/
def readV6 (cs : List Char) : Option IpAddress :=
  match Text.splitFirst '%' cs with
  | none => (parseV6 cs).map (.v6 · none)
  | some (address, zone) =>
    if zone.isEmpty || zone.contains '%' then none
    else (parseV6 address).map (.v6 · (some (String.ofList zone)))

/-- `ip_address(text)`, `none` where it raises `ValueError`. -/
def ofText? (s : String) : Option IpAddress :=
  let cs := s.toList
  if cs.contains '/' then none
  else match parseV4 cs with
    | some v => some (.v4 v)
    | none => readV6 cs

def v4Text (n : Nat) : String :=
  Text.join "." [toString (n / 16777216 % 256), toString (n / 65536 % 256),
    toString (n / 256 % 256), toString (n % 256)]

/-- The hextets of a 128-bit number, most significant first. -/
def hextets (n : Nat) : List Nat := (List.range 8).map fun i => n / 65536 ^ (7 - i) % 65536

/-- Length of the run of zeros at the front. -/
def zeroRun (hs : List Nat) : Nat := (hs.takeWhile (· == 0)).length

/-- The start and length of the first longest run of zeros. -/
def longestRun (hs : List Nat) : Nat × Nat :=
  (List.range hs.length).foldl (fun best i =>
    let run := zeroRun (hs.drop i)
    if best.2 < run then (i, run) else best) (0, 0)

def joinHextets (hs : List Nat) : String := Text.join ":" (hs.map fun h => String.ofList (hexText h))

/-- `_string_from_ip_int` of an IPv6 number. -/
def v6Text (n : Nat) : String :=
  let hs := hextets n
  let (start, run) := longestRun hs
  if run < 2 then joinHextets hs
  else joinHextets (hs.take start) ++ "::" ++ joinHextets (hs.drop (start + run))

/-- The IPv4 address an IPv6 number maps. -/
def mapped? (n : Nat) : Option Nat :=
  if n / 2 ^ 32 == 0xffff then some (n % 2 ^ 32) else none

/-- `str(address)`. -/
def text : IpAddress → String
  | v4 n => v4Text n
  | v6 n zone =>
    let address := match mapped? n with
      | some v => v6Text 0xffff ++ ":" ++ v4Text v
      | none => v6Text n
    match zone with
    | some zone => address ++ "%" ++ zone
    | none => address

/-- The power of two below which all bits of `n` are zero, at most `bits`. -/
def trailingZeros (n : Nat) : Nat → Nat
  | 0 => 0
  | bits + 1 => if n % 2 = 1 then 0 else 1 + trailingZeros (n / 2) bits

/-- `_prefix_from_ip_int`. -/
def prefixOfMask (mask : Nat) : Option Nat :=
  let zeros := trailingZeros mask 32
  if mask / 2 ^ zeros == 2 ^ (32 - zeros) - 1 then some (32 - zeros) else none

/-- `_prefix_from_prefix_string`; `int` refuses more than 4300 digits. -/
def prefixOfDigits (most : Nat) (cs : List Char) : Option Nat :=
  if cs.isEmpty || !cs.all Text.isAsciiDigit || 4300 < cs.length || most < asciiNumber cs then none
  else some (asciiNumber cs)

/-- The prefix length an IPv4 mask text stands for: digits, a netmask or a host mask. -/
def v4Prefix (cs : List Char) : Option Nat :=
  match prefixOfDigits 32 cs with
  | some length => some length
  | none => do
    let mask ← parseV4 cs
    match prefixOfMask mask with
    | some length => some length
    | none => prefixOfMask (2 ^ 32 - 1 - mask)

def maskTo (bits length n : Nat) : Nat := n / 2 ^ (bits - length) * 2 ^ (bits - length)

/-- `str(ip_network(address + "/" + mask, strict=False))`, `none` where it raises. -/
def networkText? (address mask : String) : Option String :=
  match Text.splitAll '/' (address ++ "/" ++ mask).toList with
  | [address, mask] =>
    match parseV4 address, v4Prefix mask with
    | some n, some length => some (v4Text (maskTo 32 length n) ++ "/" ++ toString length)
    | _, _ =>
      match readV6 address, prefixOfDigits 128 mask with
      | some (.v6 n zone), some length =>
        let network := maskTo 128 length n
        some (text (.v6 network (if network = n then zone else none)) ++ "/" ++ toString length)
      | _, _ => none
  | _ => none

example : (ofText? "10.0.0.1").map text = some "10.0.0.1" := by decide +kernel

example : (ofText? "2001:db8::0:1").map text = some "2001:db8::1" := by decide +kernel

example : networkText? "10.1.2.3" "255.255.0.0" = some "10.1.0.0/16" := by decide +kernel

end IpAddress

end ConfigAuditor.Library
