import Sip3.Message.AuthHeader
import Sip3.Server.Scenario
import Sip3.Text.Lines

/-!
# The life of a nonce

The registrar signs its nonces, and keeps none of them. A nonce is `data:mac`: the data are the
time of issue in eight hexadecimal digits and sixteen random ones, and the MAC is a digest of the
secret and the data.
-/

namespace Sip3

open Text Semantics Str

/-- The digests have the 32 hexadecimal digits of MD5. -/
def Platform.Md5Digits (platform : Platform) : Prop :=
  ∀ text, (platform.md5Hex text).length = 32

namespace Registrar

theorem byteLength_of_hex {text : Str} (hex : ∀ char ∈ text, char ∈ hexDigits) :
    byteLength text = text.length := by
  have size : ∀ char ∈ hexDigits, char.utf8Size = 1 := forall_mem_of_all (by decide)
  induction text with
  | nil => rfl
  | cons char rest ih =>
    rw [byteLength, size char (hex char (.head _)),
      ih fun other member => hex other (.tail _ member), List.length_cons, Nat.add_comm]

theorem hexDigit_digitChar : ∀ value < 16, hexDigit (Nat.digitChar value) = some value := by
  decide

theorem foldlM_toDigits (value : Nat) :
    (Nat.toDigits 16 value).foldlM (fun sum char => (hexDigit char).map (sum * 16 + ·)) 0 =
      some value := by
  induction value using Nat.strongRecOn with
  | ind value ih =>
    rw [Nat.toDigits_eq_if (by decide)]
    split
    next small => simp [hexDigit_digitChar value small]
    next large =>
      have digit := hexDigit_digitChar (value % 16) (Nat.mod_lt _ (by decide))
      rw [List.foldlM_append, ih (value / 16) (by omega)]
      simp [digit]
      omega

theorem foldlM_zeros (count : Nat) (text : Str) :
    (List.replicate count '0' ++ text).foldlM
        (fun sum char => (hexDigit char).map (sum * 16 + ·)) 0 =
      text.foldlM (fun sum char => (hexDigit char).map (sum * 16 + ·)) 0 := by
  have zero : hexDigit '0' = some 0 := by decide
  induction count with
  | zero => rfl
  | succ count ih =>
    rw [List.replicate_succ, List.cons_append, List.foldlM_cons, zero]
    exact ih

theorem parseHex_ofHex (width value : Nat) : parseHex (ofHex width value) = some value := by
  have digits : ∀ char ∈ ofHex width value, char ∈ hexDigits :=
    fun _ => mem_hexDigits_of_mem_ofHex
  have unsigned : ∀ rest, ofHex width value ≠ '+' :: rest := by
    intro rest same
    exact absurd (digits '+' (same ▸ List.mem_cons_self)) (by decide)
  have some : ofHex width value ≠ [] := by
    simp [ofHex, Nat.toDigits_ne_nil]
  unfold parseHex
  split
  · next rest same => exact absurd same (unsigned rest)
  · rw [if_neg some, ofHex, foldlM_zeros, foldlM_toDigits]

variable {server : Server} (digits : server.platform.Md5Digits)

/-- The characters of a nonce before the colon. -/
def nonceData (issued : Nat) (random : Vector UInt8 8) : Str :=
  Str.ofHex 8 (issued % 2 ^ 32) ++ Str.ofBytes random.toList

theorem nonceData_hex (issued : Nat) (random : Vector UInt8 8) :
    ∀ char ∈ nonceData issued random, char ∈ hexDigits := by
  intro char member
  rcases List.mem_append.mp member with stamp | bytes
  · exact mem_hexDigits_of_mem_ofHex stamp
  · exact mem_hexDigits_of_mem_ofBytes bytes

theorem byteLength_stamp (issued : Nat) : byteLength (ofHex 8 (issued % 2 ^ 32)) = 8 := by
  rw [byteLength_of_hex fun _ => mem_hexDigits_of_mem_ofHex]
  exact length_ofHex (by decide) (Nat.mod_lt _ (by decide))

theorem byteLength_nonceData (issued : Nat) (random : Vector UInt8 8) :
    byteLength (nonceData issued random) = 24 := by
  rw [nonceData, byteLength_append, byteLength_stamp,
    byteLength_of_hex fun _ => mem_hexDigits_of_mem_ofBytes, length_ofBytes]
  simp

include digits in
/-- A nonce of the registrar is accepted until it is too old. Its time is the lower half of the
time of issue. -/
theorem validateNonce_generateNonce (issued now : Nat) (random : Vector UInt8 8) :
    validateNonce server now (generateNonce server issued (Str.ofBytes random.toList)) =
      some (decide (now - issued % 2 ^ 32 < server.cfg.nonceMaxAgeSecs)) := by
  have colonSize : (':' : Char).utf8Size = 1 := by decide
  set data := nonceData issued random with dataDef
  set mac := server.platform.md5Hex (server.cfg.nonceSecret ++ ':' :: data) with macDef
  have nonce : generateNonce server issued (Str.ofBytes random.toList) = data ++ ':' :: mac := rfl
  have dataSize : Str.byteLength data = 24 := byteLength_nonceData issued random
  have macSize : Str.byteLength mac = 32 := by
    rw [byteLength_of_hex (server.platform.md5Hex_hex _), digits]
  have size : Str.byteLength (data ++ ':' :: mac) = 57 := by
    rw [Str.byteLength_append, Str.byteLength, dataSize, macSize, colonSize]
  have colon : (Str.encode (data ++ ':' :: mac))[24]? = some ':'.toNat.toUInt8 := by
    rw [← dataSize]
    exact (AuthParams.getElem?_encode_iff (by decide) data (':' :: mac)).mpr rfl
  have front : Str.slice (data ++ ':' :: mac) 0 24 = some data := by
    have cut := Str.slice_append [] data (':' :: mac)
    rwa [dataSize] at cut
  have back : Str.slice (data ++ ':' :: mac) 25 57 = some mac := by
    have cut := Str.slice_append (data ++ [':']) mac []
    have start : Str.byteLength (data ++ [':']) = 25 := by
      rw [Str.byteLength_append, Str.byteLength, Str.byteLength, dataSize, colonSize]
    rw [start, macSize] at cut
    simpa using cut
  have stamp : Str.slice data 0 8 = some (Str.ofHex 8 (issued % 2 ^ 32)) := by
    have cut := Str.slice_append [] (Str.ofHex 8 (issued % 2 ^ 32)) (Str.ofBytes random.toList)
    rwa [byteLength_stamp] at cut
  rw [nonce, validateNonce, size, if_neg (by decide), colon, if_neg (by simp), front, back]
  simp only [Option.bind_eq_bind, Option.bind_some, macSize, ← macDef]
  simp [stamp, parseHex_ofHex]

/-- An accepted text is made of 24 bytes, a colon and the MAC of these bytes. -/
theorem signed_of_validateNonce {now : Nat} {nonce : Str}
    (accepted : validateNonce server now nonce = some true) :
    ∃ data mac, nonce = data ++ ':' :: mac ∧ byteLength data = 24 ∧
      mac = server.platform.md5Hex (server.cfg.nonceSecret ++ ':' :: data) := by
  have colonSize : (':' : Char).utf8Size = 1 := by decide
  unfold validateNonce at accepted
  split at accepted
  · cases accepted
  split at accepted
  · cases accepted
  next colon =>
    obtain ⟨data, front, accepted⟩ := Option.bind_eq_some_iff.mp accepted
    obtain ⟨mac, back, checked⟩ := Option.bind_eq_some_iff.mp accepted
    obtain ⟨left, right, rfl, empty, size⟩ := slice_eq_some front
    obtain rfl := byteLength_eq_zero.mp empty
    rw [Nat.zero_add] at size
    rw [List.nil_append] at colon back ⊢
    -- The byte after the data is a colon, so the data end at a character.
    rw [← size, not_not] at colon
    have first := (AuthParams.getElem?_encode_iff (by decide) data right).mp colon
    obtain ⟨rest, rfl⟩ : ∃ rest, right = ':' :: rest := List.head?_eq_some_iff.mp first
    have whole := slice_append (data ++ [':']) rest []
    simp only [byteLength_append, byteLength, colonSize, size, List.append_nil,
      List.append_assoc, List.singleton_append] at whole back
    have same : rest = mac := by
      rw [show 24 + (1 + byteLength rest) = 24 + 1 + byteLength rest by omega] at back
      exact Option.some.inj (whole.symm.trans back)
    refine ⟨data, rest, rfl, size, ?_⟩
    split at checked
    · cases checked
    split at checked
    · cases checked
    next signed => rw [same, not_not.mp signed]

/-- A nonce is accepted for its lifetime, counted from its issue. Whatever is accepted was signed
with the secret. -/
theorem nonce_lifetime (digits : server.platform.Md5Digits) :
    (∀ issued now, ∀ random : Vector UInt8 8, issued < 2 ^ 32 → issued ≤ now →
      validateNonce server now (generateNonce server issued (Str.ofBytes random.toList)) =
        some (decide (now - issued < server.cfg.nonceMaxAgeSecs))) ∧
    ∀ now nonce, validateNonce server now nonce = some true →
      ∃ data mac, nonce = data ++ ':' :: mac ∧ Str.byteLength data = 24 ∧
        mac = server.platform.md5Hex (server.cfg.nonceSecret ++ ':' :: data) := by
  constructor
  case left =>
    intro issued now random early _
    rw [validateNonce_generateNonce digits, Nat.mod_eq_of_lt early]
  case right =>
    intro now nonce accepted
    exact signed_of_validateNonce accepted

end Registrar

namespace DigestSample

/-- A digest of 32 hexadecimal digits. -/
def digest (text : Str) : Str :=
  Str.ofHex 32 (text.foldl (fun sum char => (sum * 31 + char.toNat) % 16 ^ 32) 7 % 16 ^ 32)

/-- A platform with this digest. -/
def platform : Platform :=
  { Platform.ascii fun _ => none with
    md5Hex := digest
    md5Hex_hex := fun _ _ => Str.mem_hexDigits_of_mem_ofHex }

theorem md5Digits : platform.Md5Digits :=
  fun _ => length_ofHex (by decide) (Nat.mod_lt _ (by decide))

/-- The server of the scenarios on this platform. Its domain is `t`. -/
def server : Server := { Scenario.server with platform := platform }

end DigestSample

open DigestSample in
/-- The lifetime of the nonces of one server. -/
theorem nonce_lifetime_sample : server.platform.Md5Digits ∧
    (∀ issued now, ∀ random : Vector UInt8 8, issued < 2 ^ 32 → issued ≤ now →
      Registrar.validateNonce server now
        (Registrar.generateNonce server issued (Str.ofBytes random.toList)) =
        some (decide (now - issued < server.cfg.nonceMaxAgeSecs))) :=
  ⟨md5Digits, (Registrar.nonce_lifetime md5Digits).1⟩

end Sip3
