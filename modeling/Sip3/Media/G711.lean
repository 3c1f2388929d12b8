import Sip3.Media.Offer
import Mathlib.Data.List.Basic

/-!
# G.711

`g711.rs`: linear samples to and from the eight-bit forms of μ-law and A-law. The
arithmetic is that of the machine types and wraps around.
-/

namespace Sip3.G711

def bias : Int16 := 0x84

def clip : Int16 := 32635

/-- `i16::saturating_add`. -/
def saturatingAdd (left right : Int16) : Int16 :=
  Int16.ofInt (max (-32768) (min 32767 (left.toInt + right.toInt)))

/-- `i16::saturating_neg`. -/
def saturatingNeg (sample : Int16) : Int16 :=
  if sample = Int16.minValue then Int16.maxValue else -sample

/-- The loop that finds the segment of a sample: the highest bit above the seventh that is set. -/
def segment (pcm : Int16) : Nat → Int16 → Nat
  | 0, _ => 0
  | exponent + 1, mask =>
    if pcm &&& mask = 0 then segment pcm exponent (mask >>> 1) else exponent + 1

/-- The exponent and the mantissa of a sample, as both encoders write them. -/
def segmentBits (pcm : Int16) : UInt8 :=
  let exponent := segment pcm 7 0x4000
  let mantissa := ((pcm >>> Int16.ofNat (exponent + 3)) &&& 0x0F).toInt8.toUInt8
  UInt8.ofNat exponent <<< 4 ||| mantissa

/-- `linear_to_ulaw`. -/
def linearToUlaw (pcm : Int16) : UInt8 :=
  let negated := -saturatingAdd pcm 0
  let sign : UInt8 := if pcm < 0 then 0x80 else 0
  let magnitude := if pcm < 0 then (if negated < 0 then Int16.maxValue else negated) else pcm
  let clipped := if magnitude > clip then clip else magnitude
  ~~~(sign ||| segmentBits (saturatingAdd clipped bias))

/-- `ulaw_to_linear`. -/
def ulawToLinear (ulaw : UInt8) : Int16 :=
  let u := ~~~ulaw
  let exponent := (u >>> 4) &&& 0x07
  let mantissa := u &&& 0x0F
  let magnitude := ((Int16.ofNat mantissa.toNat <<< 3) ||| 0x84) <<< Int16.ofNat exponent.toNat
  let sample := magnitude - bias
  if u &&& 0x80 = 0 then sample else -sample

/-- `linear_to_alaw`. -/
def linearToAlaw (pcm : Int16) : UInt8 :=
  let negated := saturatingNeg pcm
  let sign : UInt8 := if pcm < 0 then 0 else 0x80
  let magnitude := if pcm < 0 then (if negated < 0 then Int16.maxValue else negated) else pcm
  let clipped := if magnitude > clip then clip else magnitude
  let alaw := if clipped < 256 then ((clipped >>> 4) &&& 0x0F).toInt8.toUInt8
    else segmentBits clipped
  (alaw ||| sign) ^^^ 0x55

/-- `alaw_to_linear`. -/
def alawToLinear (alaw : UInt8) : Int16 :=
  let a := alaw ^^^ 0x55
  let exponent := (a >>> 4) &&& 0x07
  let mantissa := Int16.ofNat (a &&& 0x0F).toNat
  let magnitude := if exponent = 0 then (mantissa <<< 4) ||| 0x08
    else ((mantissa <<< 4) ||| 0x108) <<< Int16.ofNat (exponent.toNat - 1)
  if a &&& 0x80 = 0 then -magnitude else magnitude

/-- `encode_ulaw` and `encode_alaw`. -/
def encode : Codec → List Int16 → List UInt8
  | .pcmu => List.map linearToUlaw
  | .pcma => List.map linearToAlaw

/-- `decode_ulaw` and `decode_alaw`. -/
def decode : Codec → List UInt8 → List Int16
  | .pcmu => List.map ulawToLinear
  | .pcma => List.map alawToLinear

example : linearToUlaw 0 = 0xFF ∧ ulawToLinear 0xFF = 0 ∧ linearToAlaw 0 = 0xD5 := by decide

end Sip3.G711
