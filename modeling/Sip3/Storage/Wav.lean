import Sip3.Text.Str

/-!
# WAV files

`storage/voicemail.rs`: mono PCM with sixteen bits a sample, as voicemail messages and
greetings are stored.
-/

namespace Sip3.Storage

open Text

abbrev Bytes := List UInt8

/-- The bytes of ASCII characters. -/
def ascii (chars : List Char) : Bytes :=
  chars.map fun char => UInt8.ofNat char.toNat

/-- `to_le_bytes` of an unsigned number. -/
def toLeBytes : Nat → Nat → Bytes
  | 0, _ => []
  | width + 1, value => UInt8.ofNat value :: toLeBytes width (value / 256)

/-- `from_le_bytes` of an unsigned number. -/
def fromLeBytes (bytes : Bytes) : Nat :=
  bytes.foldr (fun byte value => byte.toNat + 256 * value) 0

/-- The headers of a file with a number of bytes of samples. -/
def wavHeader (dataLen sampleRate : Nat) : Bytes :=
  [ascii ['R', 'I', 'F', 'F'], toLeBytes 4 (36 + dataLen), ascii ['W', 'A', 'V', 'E'],
    ascii ['f', 'm', 't', ' '], toLeBytes 4 16, toLeBytes 2 1, toLeBytes 2 1,
    toLeBytes 4 sampleRate, toLeBytes 4 (sampleRate * 2), toLeBytes 2 2, toLeBytes 2 16,
    ascii ['d', 'a', 't', 'a'], toLeBytes 4 dataLen].flatten

/-- The bytes of a file. -/
def wavBytes (samples : List Int16) (sampleRate : Nat) : Bytes :=
  wavHeader (samples.length * 2) sampleRate ++
    samples.flatMap fun sample => toLeBytes 2 sample.toUInt16.toNat

/-- `pcm16_wav_bytes`, which panics on a rate of zero and on sizes that do not fit. -/
def pcm16WavBytes (samples : List Int16) (sampleRate : Nat) : Option Bytes :=
  let dataLen := samples.length * 2
  if sampleRate = 0 ∨ dataLen ≥ 2 ^ 32 ∨ sampleRate * 2 ≥ 2 ^ 32 ∨ 36 + dataLen ≥ 2 ^ 32 then none
  else some (wavBytes samples sampleRate)

/-- `DecodedWav`. -/
structure DecodedWav where
  sampleRate : Nat
  samples : List Int16
  deriving DecidableEq

/-- `MAX_WAV_SAMPLES`. -/
def maxWavSamples : Nat := 10000000

/-- A slice of bytes. -/
def slice (bytes : Bytes) (start len : Nat) : Bytes :=
  (bytes.drop start).take len

/-- The samples of a chunk, a last odd byte left out. -/
def samplesOf : Bytes → List Int16
  | low :: high :: rest => (UInt16.ofNat (fromLeBytes [low, high])).toInt16 :: samplesOf rest
  | [_] | [] => []

/-- The loop of `read_pcm16_wav` over the chunks from an offset on. A chunk has a header of eight
bytes, so the number of bytes bounds the number of rounds. -/
def readChunks (bytes : Bytes) (sampleRate : Nat) : Nat → Nat → Except Str DecodedWav
  | 0, _ => .error "WAV data chunk not found".toList
  | fuel + 1, offset =>
    if offset + 8 ≤ bytes.length then
      let len := fromLeBytes (slice bytes (offset + 4) 4)
      let body := offset + 8
      if slice bytes offset 4 = ascii ['d', 'a', 't', 'a'] then
        if body + len > bytes.length then .error "truncated WAV data".toList
        else if len / 2 > maxWavSamples then
          .error "WAV data exceeds maximum sample limit".toList
        else .ok ⟨sampleRate, samplesOf (slice bytes body len)⟩
      else
        let next := body + len + len % 2
        if next > bytes.length then .error "WAV chunk extends past file end".toList
        else readChunks bytes sampleRate fuel next
    else .error "WAV data chunk not found".toList

/-- `read_pcm16_wav`. -/
def readPcm16Wav (bytes : Bytes) : Except Str DecodedWav :=
  if bytes.length < 44 ∨ slice bytes 0 4 ≠ ascii ['R', 'I', 'F', 'F'] ∨
      slice bytes 8 4 ≠ ascii ['W', 'A', 'V', 'E'] then
    .error "not a WAV file".toList
  else if fromLeBytes (slice bytes 20 2) ≠ 1 ∨ fromLeBytes (slice bytes 22 2) ≠ 1 ∨
      fromLeBytes (slice bytes 34 2) ≠ 16 then
    .error "WAV must be mono PCM16".toList
  else readChunks bytes (fromLeBytes (slice bytes 24 4)) bytes.length 12

theorem fromLeBytes_toLeBytes {width value : Nat} (fits : value < 256 ^ width) :
    fromLeBytes (toLeBytes width value) = value := by
  induction width generalizing value with
  | zero =>
    have zero : value = 0 := by omega
    rw [zero]
    rfl
  | succ width ih =>
    have rest : value / 256 < 256 ^ width := by
      rw [Nat.div_lt_iff_lt_mul (by decide)]
      omega
    have head : (UInt8.ofNat value).toNat = value % 256 := UInt8.toNat_ofNat'
    change (UInt8.ofNat value).toNat + 256 * fromLeBytes (toLeBytes width (value / 256)) = value
    rw [ih rest, head]
    omega

theorem samplesOf_flatMap (samples : List Int16) :
    samplesOf (samples.flatMap fun sample => toLeBytes 2 sample.toUInt16.toNat) = samples := by
  induction samples with
  | nil => rfl
  | cons sample rest ih =>
    have back : fromLeBytes (toLeBytes 2 sample.toUInt16.toNat) = sample.toUInt16.toNat :=
      fromLeBytes_toLeBytes sample.toUInt16.toNat_lt
    change (UInt16.ofNat (fromLeBytes (toLeBytes 2 sample.toUInt16.toNat))).toInt16 ::
      samplesOf (rest.flatMap _) = _
    rw [ih, back, UInt16.ofNat_toNat, Int16.toInt16_toUInt16]

theorem length_samples (samples : List Int16) :
    (samples.flatMap fun sample => toLeBytes 2 sample.toUInt16.toNat).length = samples.length * 2 := by
  induction samples with
  | nil => rfl
  | cons sample rest ih =>
    rw [List.flatMap_cons, List.length_append, ih, List.length_cons]
    change 2 + _ = _
    omega

theorem length_wavBytes (samples : List Int16) (sampleRate : Nat) :
    (wavBytes samples sampleRate).length = 44 + samples.length * 2 := by
  rw [wavBytes, List.length_append, length_samples]
  rfl

variable {samples : List Int16} {sampleRate : Nat}

/-- The two rounds over the chunks of a file that was written. -/
theorem readChunks_wavBytes {sampleRate fuel : Nat} (bounded : samples.length ≤ maxWavSamples) :
    readChunks (wavBytes samples sampleRate) sampleRate (fuel + 2) 12 =
      .ok ⟨sampleRate, samples⟩ := by
  have length := length_wavBytes samples sampleRate
  have small : samples.length * 2 < 256 ^ 4 := by
    simp only [maxWavSamples] at bounded
    omega
  have format : slice (wavBytes samples sampleRate) 12 4 ≠ ascii ['d', 'a', 't', 'a'] := by
    change ascii ['f', 'm', 't', ' '] ≠ ascii ['d', 'a', 't', 'a']
    decide
  have formatLen : fromLeBytes (slice (wavBytes samples sampleRate) 16 4) = 16 := rfl
  have data : slice (wavBytes samples sampleRate) 36 4 = ascii ['d', 'a', 't', 'a'] := rfl
  have dataLen : slice (wavBytes samples sampleRate) 40 4 = toLeBytes 4 (samples.length * 2) := rfl
  have body : slice (wavBytes samples sampleRate) 44 (samples.length * 2) =
      samples.flatMap fun sample => toLeBytes 2 sample.toUInt16.toNat := by
    change List.take _ (samples.flatMap _) = _
    rw [← length_samples, List.take_length]
  rw [readChunks, if_pos (by omega), if_neg format, formatLen, if_neg (by omega), readChunks,
    if_pos (by omega), if_pos data, dataLen, fromLeBytes_toLeBytes small, if_neg (by omega),
    if_neg (by omega), body, samplesOf_flatMap]

theorem readPcm16Wav_of_pcm16WavBytes {bytes : Bytes}
    (written : pcm16WavBytes samples sampleRate = some bytes)
    (bounded : samples.length ≤ maxWavSamples) :
    readPcm16Wav bytes = .ok ⟨sampleRate, samples⟩ := by
  unfold pcm16WavBytes at written
  simp only at written
  split at written
  · cases written
  · next fits =>
      cases written
      have length := length_wavBytes samples sampleRate
      have rate : slice (wavBytes samples sampleRate) 24 4 = toLeBytes 4 sampleRate := rfl
      have rateFits : sampleRate < 256 ^ 4 := by omega
      have riff : ¬ ((wavBytes samples sampleRate).length < 44 ∨
          slice (wavBytes samples sampleRate) 0 4 ≠ ascii ['R', 'I', 'F', 'F'] ∨
          slice (wavBytes samples sampleRate) 8 4 ≠ ascii ['W', 'A', 'V', 'E']) := by
        rintro (short | other | other)
        · omega
        · exact other rfl
        · exact other rfl
      have mono : ¬ (fromLeBytes (slice (wavBytes samples sampleRate) 20 2) ≠ 1 ∨
          fromLeBytes (slice (wavBytes samples sampleRate) 22 2) ≠ 1 ∨
          fromLeBytes (slice (wavBytes samples sampleRate) 34 2) ≠ 16) := by
        have format : slice (wavBytes samples sampleRate) 20 2 = toLeBytes 2 1 := rfl
        have channels : slice (wavBytes samples sampleRate) 22 2 = toLeBytes 2 1 := rfl
        have bits : slice (wavBytes samples sampleRate) 34 2 = toLeBytes 2 16 := rfl
        rw [format, channels, bits]
        decide
      obtain ⟨fuel, enough⟩ : ∃ fuel, (wavBytes samples sampleRate).length = fuel + 2 :=
        ⟨42 + samples.length * 2, by omega⟩
      rw [readPcm16Wav, if_neg riff, if_neg mono, rate, fromLeBytes_toLeBytes rateFits,
        enough, readChunks_wavBytes bounded]

theorem pcm16WavBytes_eq_some (bounded : samples.length ≤ 10000000) (positive : 0 < sampleRate)
    (fits : sampleRate < 2 ^ 31) :
    pcm16WavBytes samples sampleRate = some (wavBytes samples sampleRate) := by
  refine if_neg ?_
  rintro (zero | data | rate | riff) <;> omega

/-- Writing never panics for as many samples as a file may have and a rate that can be doubled,
and reading returns what was written. -/
theorem readPcm16Wav_written {samples : List Int16} {sampleRate : Nat}
    (bounded : samples.length ≤ 10000000) (positive : 0 < sampleRate) (fits : sampleRate < 2 ^ 31) :
    ∃ bytes, pcm16WavBytes samples sampleRate = some bytes ∧
      readPcm16Wav bytes = .ok ⟨sampleRate, samples⟩ := by
  have written := pcm16WavBytes_eq_some bounded positive fits
  exact ⟨_, written, readPcm16Wav_of_pcm16WavBytes written bounded⟩

/-- Two samples at the rate of telephony. -/
theorem readPcm16Wav_written_two : [(-2 : Int16), 515].length ≤ 10000000 ∧
    ∃ bytes, pcm16WavBytes [-2, 515] 8000 = some bytes ∧
      readPcm16Wav bytes = .ok ⟨8000, [-2, 515]⟩ :=
  ⟨by decide, readPcm16Wav_written (by decide) (by decide) (by decide)⟩

end Sip3.Storage
