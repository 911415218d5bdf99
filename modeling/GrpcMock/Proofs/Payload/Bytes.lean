import GrpcMock.Payload.Message
import GrpcMock.Proofs.Base64.Canonical
import GrpcMock.Proofs.Payload.Message

/-!
Texts that are read as bytes. A field of bytes takes the two texts that write some bytes in Base64,
one in each alphabet, and no other ones.
-/

namespace GrpcMock.Payload

open GrpcMock.Base64 (Alphabet written)

theorem readBytes_text_eq_ok {text : String} {bytes : List UInt8}
    : readBytes (.string text) = .ok bytes
      ↔ text = written .standard bytes ∨ text = written .urlSafe bytes := by
  have taken
      : readBytes (.string text) = .ok bytes
        ↔ Base64.decodeEither (Text.utf8Bytes text.toList) = .ok bytes := by
    rw [readBytes]
    cases Base64.decodeEither (Text.utf8Bytes text.toList) <;> simp
  rw [taken, Base64.decodeEither_eq_ok_iff, Base64.utf8Bytes_eq_encode_iff (.inl rfl),
    Base64.utf8Bytes_eq_encode_iff (.inr rfl)]

/-- A text that is written in one alphabet at most and read as bytes is what these are written as in
that alphabet. -/
theorem eq_written_of_covers {alphabet : Alphabet} (known : alphabet.Known) {text : String}
    {bytes : List UInt8} (covers : alphabet.Covers (Text.utf8Bytes text.toList))
    (read : readBytes (.string text) = .ok bytes)
    : text = written alphabet bytes := by
  have one {other : Alphabet} (knownToo : other.Known) (same : text = written other bytes)
      : text = written alphabet bytes := by
    have encoded := (Base64.utf8Bytes_eq_encode_iff knownToo).mpr same
    rw [encoded] at covers
    refine (Base64.utf8Bytes_eq_encode_iff known).mp (encoded.trans ?_)
    exact Base64.encode_eq_of_covers known knownToo covers
  exact (readBytes_text_eq_ok.mp read).elim (one (.inl rfl)) (one (.inr rfl))

/-- A field of bytes takes a text for some bytes exactly if the text writes them in one of the two
alphabets, with the padding and the last symbol that they call for. Among the texts with symbols of
one alphabet there is one for any bytes. -/
theorem readSingle_bytes_iff {field : FieldSchema} (kind : field.kind = .bytes) (path : String)
    : (∀ text value,
        readSingle field.name field.kind field.enumType field.message (.string text) path
            = .ok value
          ↔ ∃ bytes,
              value = .bytes bytes
              ∧ (text = written .standard bytes ∨ text = written .urlSafe bytes))
      ∧ ∀ alphabet : Alphabet,
          alphabet.Known
          → ∀ text : String,
              alphabet.Covers (Text.utf8Bytes text.toList)
              → ∀ bytes,
                  readSingle field.name field.kind field.enumType field.message (.string text) path
                      = .ok (.bytes bytes)
                    ↔ text = written alphabet bytes := by
  have taken (text : String) (value : Value)
      : readSingle field.name field.kind field.enumType field.message (.string text) path
            = .ok value
          ↔ ∃ bytes, readBytes (.string text) = .ok bytes ∧ value = .bytes bytes := by
    rw [readSingle.eq_def, kind]
    dsimp only
    rw [atPath_eq_ok, readScalar, map_eq_ok]
    simp only [eq_comm]
  refine ⟨fun text value => ?_, fun alphabet known text covers bytes => ?_⟩
  · rw [taken]
    simp only [readBytes_text_eq_ok, and_comm]
  · rw [taken]
    constructor
    · rintro ⟨others, read, same⟩
      cases same
      exact eq_written_of_covers known covers read
    · rintro rfl
      refine ⟨bytes, readBytes_text_eq_ok.mpr ?_, rfl⟩
      exact known.imp (congrArg (written · bytes)) (congrArg (written · bytes))

/-- Two bytes are read from their texts in both alphabets, and from no text that mixes these. -/
theorem readSingle_avatar
    : (FieldSchema.single "avatar" 1 .bytes).kind = .bytes
      ∧ readSingle "avatar" .bytes none none (.string "+/8=") "user.avatar"
        = .ok (.bytes [0xfb, 0xff])
      ∧ readSingle "avatar" .bytes none none (.string "-_8=") "user.avatar"
        = .ok (.bytes [0xfb, 0xff])
      ∧ readSingle "avatar" .bytes none none (.string "+_8=") "user.avatar"
        = .error (.mismatch "user.avatar" (.notBase64 (some (.invalidByte 43 0))))
      ∧ Alphabet.urlSafe.Known
      ∧ Alphabet.urlSafe.Covers (Text.utf8Bytes "-_8=".toList)
      ∧ "-_8=" = written .urlSafe [0xfb, 0xff] := by
  have kind : (FieldSchema.single "avatar" 1 .bytes).kind = .bytes := rfl
  have standard : "+/8=" = written .standard [0xfb, 0xff] := by decide +kernel
  have urlSafe : "-_8=" = written .urlSafe [0xfb, 0xff] := by decide +kernel
  obtain ⟨texts, one⟩ := readSingle_bytes_iff kind "user.avatar"
  have covers : Alphabet.urlSafe.Covers (Text.utf8Bytes "-_8=".toList) := by
    unfold Alphabet.Covers
    decide +kernel
  have second := (texts "-_8=" _).mpr ⟨_, rfl, .inr urlSafe⟩
  exact ⟨kind, (texts "+/8=" _).mpr ⟨_, rfl, .inl standard⟩, second, by rfl, .inr rfl, covers,
    (one .urlSafe (.inr rfl) "-_8=" covers _).mp second⟩

end GrpcMock.Payload
