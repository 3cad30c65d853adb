import NplgMcp.Encoding

/-!
# Canonical hosts

`canonicalize_mcp_host` of `config.py`. What `ipaddress.ip_address` makes of a text differs between
the Python versions that are supported and is the parameter `ipAddress`.
-/

namespace NplgMcp

/-- What `ip_address` returns: its version, and its text as `compressed` or `str` gives it. -/
structure IpAddress where
  version : ℕ
  compressed : List Char

/-- `_MAX_CANONICAL_HOST_BYTES`. -/
def maxCanonicalHostBytes : ℕ := 253

/-- `_MAX_PORT`. -/
def maxPort : ℕ := 65535

/-- A character of `[a-z0-9]`. -/
def isLabelEdge (c : Char) : Bool := c.isDigit || ('a' ≤ c && c ≤ 'z')

/-- `_DNS_LABEL.fullmatch`. -/
def isDnsLabel (label : List Char) : Bool :=
  label.head?.any isLabelEdge && label.getLast?.any isLabelEdge && label.length ≤ 63 &&
    label.all fun c => isLabelEdge c || c == '-'

/-- A character that no canonical host has: an upper-case letter, a control character or a space,
or a marker of another part of a URL. -/
def isForeignToHost (c : Char) : Bool :=
  ('A' ≤ c && c ≤ 'Z') || c.toNat ≤ 0x20 || c.toNat == 0x7F ||
    ['*', '%', '\\', '@', '/', '?', '#'].contains c

/-- The checks of a port: `none` where there is no port. -/
def isCanonicalPort (defaultPort : ℕ) : Option (List Char) → Bool
  | none => true
  | some text =>
    isDecimal text && !(1 < text.length && text.head? == some '0') &&
      (intOfDigits text).any fun port => 1 ≤ port && port ≤ maxPort && port != defaultPort

section
variable (ipAddress : List Char → Option IpAddress)

/-- The host and the port of a bracketed IPv6 literal. -/
def splitLiteral (rest : List Char) : Option (List Char × Option (List Char)) :=
  if ']' ∈ rest then
    let host := rest.takeWhile (· != ']')
    match rest.drop (host.length + 1) with
    | [] => some (host, none)
    | ':' :: port => some (host, some port)
    | _ => none
  else none

/-- The host and the port of any other authority. -/
def splitName (value : List Char) : Option (List Char × Option (List Char)) :=
  match value.splitOn ':' with
  | [host] => some (host, none)
  | [host, port] => some (host, some port)
  | _ => none

/-- Whether the host of an authority is written as it would be written back. -/
def isCanonicalName (literal : Bool) (host : List Char) : Bool :=
  match literal, ipAddress host with
  | true, some address => address.version == 6 && address.compressed == host
  | true, none => false
  | false, some address => address.version == 4 && address.compressed == host
  | false, none => (host.splitOn '.').all isDnsLabel

/-- `canonicalize_mcp_host` of ASCII text: `none` is a `ValueError`. -/
def canonicalizeMcpHost (defaultPort : ℕ) (value : List Char) : Option (List Char) :=
  if value.isEmpty || maxCanonicalHostBytes < value.length || value.any isForeignToHost then none
  else
    let literal := value.head? == some '['
    match if literal then splitLiteral value.tail else splitName value with
    | none => none
    | some (host, port) =>
      if isCanonicalName ipAddress literal host && isCanonicalPort defaultPort port then some value
      else none

end

end NplgMcp
