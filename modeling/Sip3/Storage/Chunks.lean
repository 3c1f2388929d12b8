import Sip3.Storage.Wav

/-!
# The chunks of a WAV file

`read_pcm16_wav` looks for the samples by walking over the chunks, and reads the format at fixed
offsets: it takes the first chunk for the format. A file whose format chunk comes later is read by
what happens to stand at those offsets.
-/

namespace Sip3.Storage

open Text

/-- A chunk: its name, its bytes, and the byte that pads an odd number of them. -/
structure Chunk where
  id : Bytes
  payload : Bytes
  pad : UInt8
  named : id.length = 4
  fits : payload.length < 256 ^ 4

/-- The bytes of a chunk. -/
def Chunk.bytes (chunk : Chunk) : Bytes :=
  chunk.id ++ (toLeBytes 4 chunk.payload.length ++ (chunk.payload ++
    if chunk.payload.length % 2 = 1 then [chunk.pad] else []))

/-- A RIFF/WAVE file. Its size field is not read. -/
def riff (size : Vector UInt8 4) (chunks : List Chunk) : Bytes :=
  ascii ['R', 'I', 'F', 'F'] ++ (size.toList ++ (ascii ['W', 'A', 'V', 'E'] ++
    chunks.flatMap Chunk.bytes))

/-- A data chunk. -/
abbrev isData (chunk : Chunk) : Prop := chunk.id = ascii ['d', 'a', 't', 'a']

/-- The sample rate of a format that is uncompressed mono PCM with sixteen bits. -/
def monoRate? (format : Bytes) : Option Nat :=
  if fromLeBytes (slice format 0 2) = 1 ∧ fromLeBytes (slice format 2 2) = 1 ∧
      fromLeBytes (slice format 14 2) = 16 then
    some (fromLeBytes (slice format 4 4))
  else none

/-- What a file with a format and a data chunk stands for. -/
def decoded? (format samples : Bytes) : Option DecodedWav :=
  if samples.length / 2 ≤ 10000000 then
    (monoRate? format).map fun rate => ⟨rate, samplesOf samples⟩
  else none

@[simp] theorem length_toLeBytes (width value : Nat) : (toLeBytes width value).length = width := by
  induction width generalizing value with
  | zero => rfl
  | succ width ih => rw [toLeBytes, List.length_cons, ih]

/-- A slice of the piece that stands at a position. -/
theorem slice_piece {position len : Nat} {front piece : Bytes} (at_ : front.length = position)
    (whole : piece.length = len) (back : Bytes) :
    slice (front ++ (piece ++ back)) position len = piece := by
  rw [slice, ← at_, List.drop_left, ← whole, List.take_left]

section Scan

variable {chunk : Chunk} {front back : Bytes} {sampleRate fuel : Nat}

/-- One round at a chunk. -/
theorem readChunks_chunk (chunk : Chunk) (front back : Bytes) (sampleRate fuel : Nat) :
    readChunks (front ++ (chunk.bytes ++ back)) sampleRate (fuel + 1) front.length =
      if isData chunk then
        if chunk.payload.length / 2 > maxWavSamples then
          .error "WAV data exceeds maximum sample limit".toList
        else .ok ⟨sampleRate, samplesOf chunk.payload⟩
      else readChunks (front ++ (chunk.bytes ++ back)) sampleRate fuel
        (front ++ chunk.bytes).length := by
  have name : slice (front ++ (chunk.bytes ++ back)) front.length 4 = chunk.id := by
    rw [Chunk.bytes, List.append_assoc]
    exact slice_piece rfl chunk.named _
  have size : slice (front ++ (chunk.bytes ++ back)) (front.length + 4) 4 =
      toLeBytes 4 chunk.payload.length := by
    have split : front ++ (chunk.bytes ++ back) = (front ++ chunk.id) ++
        (toLeBytes 4 chunk.payload.length ++ ((chunk.payload ++
          if chunk.payload.length % 2 = 1 then [chunk.pad] else []) ++ back)) := by
      simp [Chunk.bytes]
    rw [split]
    exact slice_piece (by simp [chunk.named]) (length_toLeBytes _ _) _
  have body : slice (front ++ (chunk.bytes ++ back)) (front.length + 8) chunk.payload.length =
      chunk.payload := by
    have split : front ++ (chunk.bytes ++ back) =
        (front ++ (chunk.id ++ toLeBytes 4 chunk.payload.length)) ++ (chunk.payload ++
          ((if chunk.payload.length % 2 = 1 then [chunk.pad] else []) ++ back)) := by
      simp [Chunk.bytes]
    rw [split]
    exact slice_piece (by simp [chunk.named]) rfl _
  have length : chunk.bytes.length = 8 + chunk.payload.length + chunk.payload.length % 2 := by
    have parity := Nat.mod_two_eq_zero_or_one chunk.payload.length
    simp only [Chunk.bytes, List.length_append, chunk.named, length_toLeBytes]
    rcases parity with even | odd
    · simp [even]
      omega
    · simp [odd]
      omega
  rw [readChunks, if_pos (by simp [length]; omega), name, size, fromLeBytes_toLeBytes chunk.fits]
  dsimp only
  split
  · rw [if_neg (by simp [length]; omega), body]
  · rw [if_neg (by simp [length]; omega), List.length_append, length]
    congr 1
    omega

/-- The rounds up to the first data chunk. -/
theorem readChunks_data {data : Chunk} (samples : isData data) {skipped : List Chunk}
    (others : ∀ chunk ∈ skipped, ¬ isData chunk) (front back : Bytes)
    (enough : skipped.length < fuel) :
    readChunks (front ++ (skipped.flatMap Chunk.bytes ++ (data.bytes ++ back))) sampleRate fuel
        front.length =
      if data.payload.length / 2 > maxWavSamples then
        .error "WAV data exceeds maximum sample limit".toList
      else .ok ⟨sampleRate, samplesOf data.payload⟩ := by
  induction skipped generalizing front fuel with
  | nil =>
    obtain ⟨rounds, rfl⟩ := Nat.exists_eq_add_of_lt enough
    rw [List.flatMap_nil, List.nil_append, readChunks_chunk, if_pos samples]
  | cons chunk rest ih =>
    rw [List.forall_mem_cons] at others
    obtain ⟨rounds, rfl⟩ : ∃ rounds, fuel = rounds + 1 := ⟨fuel - 1, by omega⟩
    rw [List.flatMap_cons, List.append_assoc, readChunks_chunk, if_neg others.1,
      ← List.append_assoc]
    exact ih others.2 (front ++ chunk.bytes) (Nat.lt_of_succ_lt_succ enough)

end Scan

theorem length_le_flatMap_bytes (chunks : List Chunk) :
    chunks.length * 8 ≤ (chunks.flatMap Chunk.bytes).length := by
  induction chunks with
  | nil => exact Nat.zero_le _
  | cons chunk rest ih =>
    simp only [List.flatMap_cons, List.length_append, List.length_cons, Chunk.bytes, chunk.named,
      length_toLeBytes]
    omega

section Files

variable {size : Vector UInt8 4} {before between after : List Chunk} {format data : Chunk}

/-- A file is read by the sixteen bytes at the offset of the first chunk's contents and by its
first data chunk. -/
theorem readPcm16Wav_riff (long : 16 ≤ format.payload.length) (samples : isData data)
    (others : ∀ chunk ∈ before ++ format :: between, ¬ isData chunk) :
    (readPcm16Wav (riff size (before ++ format :: between ++ data :: after))).toOption =
      decoded? ((riff size (before ++ format :: between ++ data :: after)).drop 20)
        data.payload := by
  generalize chosen : before ++ format :: between = skipped at others ⊢
  have header : riff size (skipped ++ data :: after) = (ascii ['R', 'I', 'F', 'F'] ++ (size.toList ++
      ascii ['W', 'A', 'V', 'E'])) ++ (skipped.flatMap Chunk.bytes ++ (data.bytes ++
        after.flatMap Chunk.bytes)) := by
    simp [riff, List.append_assoc]
  have short : (ascii ['R', 'I', 'F', 'F'] ++ (size.toList ++
      ascii ['W', 'A', 'V', 'E'])).length = 12 := by
    simp [ascii]
  have room : 24 ≤ (skipped.flatMap Chunk.bytes).length := by
    rw [← chosen]
    simp only [List.flatMap_append, List.flatMap_cons, List.length_append, Chunk.bytes,
      format.named, length_toLeBytes]
    omega
  have last : 8 ≤ data.bytes.length := by
    simp only [Chunk.bytes, List.length_append, data.named, length_toLeBytes]
    omega
  have length : (riff size (skipped ++ data :: after)).length =
      12 + ((skipped.flatMap Chunk.bytes).length + (data.bytes.length +
        (after.flatMap Chunk.bytes).length)) := by
    rw [header, List.length_append, short, List.length_append, List.length_append]
  have rounds := length_le_flatMap_bytes skipped
  have scan : ∀ sampleRate, readChunks (riff size (skipped ++ data :: after)) sampleRate
      (riff size (skipped ++ data :: after)).length 12 =
        if data.payload.length / 2 > maxWavSamples then
          .error "WAV data exceeds maximum sample limit".toList
        else .ok ⟨sampleRate, samplesOf data.payload⟩ := fun sampleRate => by
    rw [length, header, ← short]
    exact readChunks_data samples others _ _ (by omega)
  have start : slice (riff size (skipped ++ data :: after)) 0 4 = ascii ['R', 'I', 'F', 'F'] := rfl
  have wave : slice (riff size (skipped ++ data :: after)) 8 4 = ascii ['W', 'A', 'V', 'E'] := by
    have split : riff size (skipped ++ data :: after) = (ascii ['R', 'I', 'F', 'F'] ++ size.toList) ++
        (ascii ['W', 'A', 'V', 'E'] ++ (skipped ++ data :: after).flatMap Chunk.bytes) := by
      simp [riff]
    rw [split]
    exact slice_piece (by simp [ascii]) rfl _
  have shifted : ∀ offset len, slice ((riff size (skipped ++ data :: after)).drop 20) offset len =
      slice (riff size (skipped ++ data :: after)) (20 + offset) len := fun offset len => by
    rw [slice, slice, List.drop_drop]
  rw [readPcm16Wav, if_neg (by rw [start, wave]; simp; omega), scan, decoded?, monoRate?, shifted,
    shifted, shifted, shifted]
  simp only [Nat.add_zero, Nat.reduceAdd]
  by_cases mono : fromLeBytes (slice (riff size (skipped ++ data :: after)) 20 2) = 1 ∧
      fromLeBytes (slice (riff size (skipped ++ data :: after)) 22 2) = 1 ∧
      fromLeBytes (slice (riff size (skipped ++ data :: after)) 34 2) = 16
  · rw [if_neg (by simp [mono]), if_pos mono]
    by_cases fits : data.payload.length / 2 ≤ maxWavSamples
    · rw [if_neg (Nat.not_lt.mpr fits), if_pos (show _ ≤ 10000000 from fits)]
      rfl
    · rw [if_pos (Nat.lt_of_not_le fits), if_neg (show ¬ _ ≤ 10000000 from fits)]
      rfl
  · rw [if_pos (by tauto), if_neg mono]
    split <;> rfl

/-- Reading respects the chunks of a file exactly when the sixteen bytes after the header of its
first chunk declare what the format chunk declares, or there are too many samples anyway. -/
theorem readPcm16Wav_respects_chunks_iff (long : 16 ≤ format.payload.length)
    (samples : isData data) (others : ∀ chunk ∈ before ++ format :: between, ¬ isData chunk) :
    (readPcm16Wav (riff size (before ++ format :: between ++ data :: after))).toOption =
        decoded? format.payload data.payload ↔
      monoRate? ((riff size (before ++ format :: between ++ data :: after)).drop 20) =
        monoRate? format.payload ∨ 10000000 < data.payload.length / 2 := by
  rw [readPcm16Wav_riff long samples others, decoded?, decoded?]
  by_cases fits : data.payload.length / 2 ≤ 10000000
  · rw [if_pos fits, if_pos fits, or_iff_left (Nat.not_lt.mpr fits)]
    refine Function.Injective.eq_iff (Option.map_injective fun rate other same => ?_)
    exact (DecodedWav.mk.inj same).1
  · rw [if_neg fits, if_neg fits]
    exact iff_of_true rfl (.inr (Nat.lt_of_not_le fits))

end Files

namespace Sample

/-- A format chunk of mono PCM at 8000 Hz. -/
def format : Chunk where
  id := ascii ['f', 'm', 't', ' ']
  payload := (wavHeader 0 8000).drop 20 |>.take 16
  pad := 0
  named := rfl
  fits := by decide

def list : Chunk := ⟨ascii ['L', 'I', 'S', 'T'], [7], 0, rfl, by decide⟩

def samples : Chunk := ⟨ascii ['d', 'a', 't', 'a'], [1, 2], 0, rfl, by decide⟩

end Sample

/-- Another chunk stands between the format and the samples. -/
theorem readPcm16Wav_respects_chunks_between :
    (readPcm16Wav (riff (Vector.replicate 4 0) [Sample.format, Sample.list, Sample.samples])).toOption =
      some ⟨8000, [513]⟩ :=
  (@readPcm16Wav_respects_chunks_iff (Vector.replicate 4 0) [] [Sample.list] [] Sample.format
    Sample.samples (by decide) rfl (by decide)).mpr (.inl (by decide))

/-- The same chunks with the other one first. -/
theorem readPcm16Wav_loses_format :
    decoded? Sample.format.payload Sample.samples.payload = some ⟨8000, [513]⟩ ∧
    readPcm16Wav (riff (Vector.replicate 4 0) [Sample.list, Sample.format, Sample.samples]) =
      .error "WAV must be mono PCM16".toList := by
  decide

end Sip3.Storage
