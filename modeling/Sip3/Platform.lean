import Sip3.Text.Utf8
import Mathlib.Data.List.Perm.Basic

/-!
# The platform under the server

Library behaviour the server relies on and does not contain: Unicode case
tables, hash functions, address syntax and the iteration order of hash maps.
Each is a parameter, with the part of its documentation that proofs need as a
field.
-/

namespace Sip3

open Text

/-- An IP address, by its octets or by its segments. -/
inductive IpAddr where
  | v4 (octets : Vector UInt8 4)
  | v6 (segments : Vector UInt16 8)
  deriving DecidableEq

/-- `Ipv4Addr::new`. -/
def IpAddr.octets (a b c d : UInt8) : IpAddr := .v4 #v[a, b, c, d]

/-- `std::net::SocketAddr`. -/
structure SocketAddr where
  ip : IpAddr
  port : UInt16
  deriving DecidableEq

/-- Functions of third-party crates and of the Unicode tables. -/
structure Platform where
  toLowercase : Str → Str
  /-- Case conversion of ASCII text is the ASCII one. -/
  toLowercase_ascii : ∀ text : Str, (∀ char ∈ text, char.toNat < 128) →
    toLowercase text = Str.toAsciiLowercase text
  toUppercase : Str → Str
  md5Hex : Str → Str
  md5Hex_hex : ∀ text, ∀ char ∈ md5Hex text, char ∈ Str.hexDigits
  sha1Hex : Str → Str
  sha1Hex_hex : ∀ text, ∀ char ∈ sha1Hex text, char ∈ Str.hexDigits
  /-- `bcrypt::verify` of a plain text against a stored hash; `none` for an error. -/
  bcryptVerify : Str → Str → Option Bool
  ipText : IpAddr → Str
  /-- An address is written with hexadecimal digits, dots and colons. -/
  ipText_chars : ∀ ip, ∀ char ∈ ipText ip, char ∈ '.' :: ':' :: Str.hexDigits
  parseIpAddr : Str → Option IpAddr
  parseSocketAddr : Str → Option SocketAddr
  /-- The order in which a hash map of headers is iterated. -/
  headerOrder : List (Str × List Str) → List (Str × List Str)
  headerOrder_perm : ∀ entries, (headerOrder entries).Perm entries

namespace Platform

/-- A platform whose tables are the ASCII ones and whose IP addresses are never
parsed, for evaluating definitions on ASCII messages. Its digest of a text is the
text without what is not a hexadecimal digit. -/
def ascii (parseSocketAddr : Str → Option SocketAddr) : Platform where
  toLowercase := Str.toAsciiLowercase
  toLowercase_ascii _ _ := rfl
  toUppercase text := text.map Char.toUpper
  md5Hex text := text.filter (· ∈ Str.hexDigits)
  md5Hex_hex _ _ member := of_decide_eq_true (List.mem_filter.mp member).2
  sha1Hex text := text.filter (· ∈ Str.hexDigits)
  sha1Hex_hex _ _ member := of_decide_eq_true (List.mem_filter.mp member).2
  bcryptVerify _ _ := some false
  ipText _ := []
  ipText_chars _ _ member := absurd member List.not_mem_nil
  parseIpAddr _ := none
  parseSocketAddr := parseSocketAddr
  headerOrder entries := entries
  headerOrder_perm _ := .refl _

end Platform

end Sip3
