/-
This file models the address parsers of Go's `net` and `net/netip` packages that the
validator and the engine call: `netip.ParseAddr` with its IPv4 and IPv6 grammars,
`net.ParseIP`, `net.ParseCIDR`, `net.ParseMAC` and `netip.ParsePrefix`.

Go indexes the input by bytes and these parsers by characters. Every character the
grammars accept is ASCII, and each parser tests every byte of an input it accepts, so a
non-ASCII character makes both forms fail; on ASCII inputs they are the same loop.
-/

import Dranet.Go

namespace Dranet

/-- `net.IP`: a byte slice, four or sixteen bytes long. -/
abbrev IP := List UInt8

/-- `net.IPNet`: a network number and its mask. -/
structure IPNet where
  ip : IP
  mask : List UInt8
  deriving DecidableEq, Repr

/-- `net.HardwareAddr`. -/
abbrev HardwareAddr := List UInt8

namespace Netip

open Strconv

/-- `netip.Addr`: its sixteen-byte form, whether it is an IPv4 address, and its zone. -/
structure Addr where
  as16 : List UInt8
  is4 : Bool
  zone : List Char
  deriving DecidableEq, Repr

/-- The first twelve bytes of an IPv4 address in its sixteen-byte form. -/
def v4InV6Prefix : List UInt8 := [0, 0, 0, 0, 0, 0, 0, 0, 0, 0, 0xff, 0xff]

/-- `netip.AddrFrom4`. -/
def addrFrom4 (fields : List UInt8) : Addr := ⟨v4InV6Prefix ++ fields, true, []⟩

/-- `Addr.BitLen`. -/
def Addr.bitLen (addr : Addr) : Nat := if addr.is4 then 32 else 128

/-- An ASCII hexadecimal digit: a decimal one, `'a'` (97) to `'f'`, or `'A'` (65) to `'F'`. -/
def isHex (c : Char) : Bool :=
  isDecimal c || (97 ≤ c.toNat && c.toNat ≤ 102) || (65 ≤ c.toNat && c.toNat ≤ 70)

/-- The value of a hexadecimal digit. -/
def hexValue (c : Char) : Nat :=
  if isDecimal c then c.toNat - 48
  else if 97 ≤ c.toNat ∧ c.toNat ≤ 102 then c.toNat - 87
  else c.toNat - 55

/-- The loop of `parseIPv4Fields`. `fields` holds the finished octets, `value` and `digits`
the current one, `first` says no character was read yet and `afterDot` that the last one
was a dot. -/
def parseIPv4Fields : List Char → List UInt8 → Nat → Nat → Bool → Bool → Option (List UInt8)
  | [], fields, value, _, _, _ =>
    if fields.length < 3 then none else some (fields ++ [UInt8.ofNat value])
  | c :: rest, fields, value, digits, first, afterDot =>
    if isDecimal c then
      if digits = 1 ∧ value = 0 then none
      else if 255 < value * 10 + (c.toNat - 48) then none
      else parseIPv4Fields rest fields (value * 10 + (c.toNat - 48)) (digits + 1) false false
    else if c = '.' then
      if first ∨ rest = [] ∨ afterDot then none
      else if fields.length = 3 then none
      else parseIPv4Fields rest (fields ++ [UInt8.ofNat value]) 0 0 false true
    else none

/-- `parseIPv4`: four dotted decimal octets, each at most 255 and without a leading zero. -/
def parseIPv4 (s : List Char) : Option Addr :=
  (parseIPv4Fields s [] 0 0 true false).map addrFrom4

/-- The group loop of `parseIPv6`, one colon-separated group a pass; `ip` holds the bytes
read and `ellipsis` where a `::` stood. It stops at the end of the input, after an
embedded IPv4 address, or once sixteen bytes are read, and hands back what is left. -/
def parseIPv6Groups :
    Nat → List Char → List UInt8 → Option Nat → Option (List Char × List UInt8 × Option Nat)
  | 0, s, ip, ellipsis => some (s, ip, ellipsis)
  | fuel + 1, s, ip, ellipsis =>
    if ip.length < 16 then
      let digits := s.takeWhile isHex
      let after := s.drop digits.length
      if 4 < digits.length then none
      else if digits.length = 0 then none
      else if after.head? = some '.' then
        if ellipsis.isNone ∧ ip.length ≠ 12 then none
        else if 16 < ip.length + 4 then none
        else (parseIPv4Fields s [] 0 0 true false).map fun fields => ([], ip ++ fields, ellipsis)
      else
        let group := digits.foldl (fun acc c => acc * 16 + hexValue c) 0
        let ip := ip ++ [UInt8.ofNat (group / 256), UInt8.ofNat (group % 256)]
        match after with
        | [] => some ([], ip, ellipsis)
        | [':'] => none
        | ':' :: ':' :: rest =>
          if ellipsis.isSome then none
          else if rest = [] then some ([], ip, some ip.length)
          else parseIPv6Groups fuel rest ip (some ip.length)
        | ':' :: rest => parseIPv6Groups fuel rest ip ellipsis
        | _ => none
    else some (s, ip, ellipsis)

/-- `parseIPv6`: up to eight hexadecimal groups with at most one `::`, an optional
embedded IPv4 address in the last two, and an optional non-empty zone after `%`. -/
def parseIPv6 (input : List Char) : Option Addr :=
  match Strings.cut '%' input with
  | (_, some []) => none
  | (s, zone) =>
    let zone := zone.getD []
    if s.take 2 = [':', ':'] ∧ s.drop 2 = [] then some ⟨List.replicate 16 0, false, zone⟩
    else
      let (s, ellipsis) := if s.take 2 = [':', ':'] then (s.drop 2, some 0) else (s, none)
      match parseIPv6Groups 8 s [] ellipsis with
      | none => none
      | some (rest, ip, ellipsis) =>
        if rest ≠ [] then none
        else if ip.length < 16 then
          match ellipsis with
          | none => none
          | some position =>
            some ⟨ip.take position ++ List.replicate (16 - ip.length) 0 ++ ip.drop position, false,
              zone⟩
        else if ellipsis.isSome then none
        else some ⟨ip, false, zone⟩

/-- `netip.ParseAddr`: the first `.`, `:` or `%` decides the grammar. -/
def parseAddr (s : List Char) : Option Addr :=
  match s.find? fun c => c = '.' ∨ c = ':' ∨ c = '%' with
  | some '.' => parseIPv4 s
  | some ':' => parseIPv6 s
  | _ => none

/-- `netip.ParsePrefix`: an address, then after the last `/` a prefix length written
without sign or leading zero and at most the address's bit length. An IPv6 zone is
refused. -/
def parsePrefix (s : List Char) : Option (Addr × Nat) :=
  match Strings.cut '/' s.reverse with
  | (_, none) => none
  | (bitsReversed, some addrReversed) =>
    let bits := bitsReversed.reverse
    match parseAddr addrReversed.reverse with
    | none => none
    | some ip =>
      if !ip.is4 ∧ ip.zone ≠ [] then none
      else if 1 < bits.length ∧ !(49 ≤ (bits.headD '0').toNat ∧ (bits.headD '0').toNat ≤ 57) then
        none
      else
        match parseInt bits with
        | none => none
        | some length =>
          if length < 0 ∨ ip.bitLen < length then none else some (ip, length.toNat)

end Netip

namespace Net

open Strconv Netip

/-- `dtoi`, with `big = 0xFFFFFF`: the value of the decimal digits at the front, how many
were read, and whether there was one and the value stayed below `big`. -/
def dtoi : List Char → Nat → Nat → Nat × Nat × Bool
  | [], value, read => (value, read, read ≠ 0)
  | c :: rest, value, read =>
    if isDecimal c then
      if 0xFFFFFF ≤ value * 10 + (c.toNat - 48) then (0xFFFFFF, read, false)
      else dtoi rest (value * 10 + (c.toNat - 48)) (read + 1)
    else (value, read, read ≠ 0)

/-- `net.CIDRMask(ones, bits)`: `bits / 8` bytes with `ones` leading one bits. -/
def cidrMask (ones bits : Nat) : List UInt8 :=
  (List.range (bits / 8)).map fun index => UInt8.ofNat (256 - 2 ^ (8 - min 8 (ones - 8 * index)))

/-- `IP.Mask`: a sixteen-byte IPv4 address under a four-byte mask is cut to four bytes. -/
def mask (ip : IP) (mask : List UInt8) : IP :=
  let ip := if mask.length = 4 ∧ ip.length = 16 ∧ ip.take 12 = v4InV6Prefix then ip.drop 12 else ip
  if ip.length ≠ mask.length then [] else List.zipWith (· &&& ·) ip mask

/-- `net.ParseIP`: the sixteen-byte form of an address without a zone, `nil` otherwise. -/
def parseIP (s : String) : Option IP :=
  match parseAddr s.toList with
  | some addr => if addr.zone = [] then some addr.as16 else none
  | none => none

/-- `net.ParseCIDR`: an address without zone, a `/`, and a decimal prefix length at most
its bit length. It returns the address and the network it lies in; its error is a
`*ParseError` of type "CIDR address". -/
def parseCIDR (s : String) : Except GoError (IP × IPNet) :=
  let failure := GoError.text ("invalid CIDR address: " ++ s)
  match Strings.cut '/' s.toList with
  | (_, none) => .error failure
  | (address, some length) =>
    match parseAddr address with
    | none => .error failure
    | some ip =>
      if ip.zone ≠ [] then .error failure
      else
        match dtoi length 0 0 with
        | (ones, read, ok) =>
          if !ok ∨ read ≠ length.length ∨ ip.bitLen < ones then .error failure
          else .ok (ip.as16, ⟨mask ip.as16 (cidrMask ones ip.bitLen), cidrMask ones ip.bitLen⟩)

/-- Every error of `net.ParseCIDR` is the one `*ParseError` it builds from the input. -/
theorem parseCIDR_error {s : String} {err : GoError} (refused : parseCIDR s = .error err) :
    err = .text ("invalid CIDR address: " ++ s) := by
  unfold parseCIDR at refused
  split at refused
  · injection refused with failed; exact failed.symm
  · split at refused
    · injection refused with failed; exact failed.symm
    · split at refused
      · injection refused with failed; exact failed.symm
      · split at refused
        split at refused
        · injection refused with failed; exact failed.symm
        · cases refused

/-- `xtoi2`: two hexadecimal digits, and when more follows, the separator `e` after them. -/
def xtoi2 (s : List Char) (e : Char) : Option UInt8 :=
  if 2 < s.length ∧ s.get? 2 ≠ some e then none
  else
    match s.take 2 with
    | [high, low] =>
      if isHex high ∧ isHex low then some (UInt8.ofNat (hexValue high * 16 + hexValue low))
      else none
    | _ => none

/-- The loop of `ParseMAC` over `xx:xx:...` and `xx-xx-...`: `n` groups of two digits. -/
def parseMACGroups (sep : Char) : Nat → List Char → Option HardwareAddr
  | 0, _ => some []
  | n + 1, s =>
    match xtoi2 s sep with
    | none => none
    | some byte => (parseMACGroups sep n (s.drop 3)).map (byte :: ·)

/-- The loop of `ParseMAC` over `xxxx.xxxx...`: `n` groups of four digits. -/
def parseMACDotted (sep : Char) : Nat → List Char → Option HardwareAddr
  | 0, _ => some []
  | n + 1, s =>
    match xtoi2 (s.take 2) (Char.ofNat 0), xtoi2 (s.drop 2) sep with
    | some high, some low => (parseMACDotted sep n (s.drop 5)).map (high :: low :: ·)
    | _, _ => none

/-- `net.ParseMAC`: a 6, 8 or 20 byte address in one of the three notations. Its error is
an `*AddrError` "invalid MAC address" naming the input. -/
def parseMAC (s : String) : Except GoError HardwareAddr :=
  let failure := GoError.text
    (if s = "" then "invalid MAC address" else "address " ++ s ++ ": invalid MAC address")
  let cs := s.toList
  let parsed : Option HardwareAddr :=
    if cs.length < 14 then none
    else if cs.get? 2 = some ':' ∨ cs.get? 2 = some '-' then
      if (cs.length + 1) % 3 ≠ 0 then none
      else if (cs.length + 1) / 3 ∉ [6, 8, 20] then none
      else parseMACGroups (cs.getD 2 ':') ((cs.length + 1) / 3) cs
    else if cs.get? 4 = some '.' then
      if (cs.length + 1) % 5 ≠ 0 then none
      else if 2 * (cs.length + 1) / 5 ∉ [6, 8, 20] then none
      else parseMACDotted '.' ((cs.length + 1) / 5) cs
    else none
  match parsed with
  | some hw => .ok hw
  | none => .error failure

end Net

end Dranet
