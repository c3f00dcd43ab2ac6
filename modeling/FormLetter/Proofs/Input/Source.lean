import FormLetter.Input.Source
import FormLetter.Proofs.Text.Decoding

/-!
What a source gives does not depend on how its text is written: content on the command line, the
bytes of a file and those on standard input all come out as the text that was meant.
-/
namespace FormLetter.Source

open Text

/-- A text written in any of its encodings is read back as that text, and every source that holds it
resolves to it. -/
theorem resolve_of_encodes {t : String} {encoding : Encoding} {bytes : Bytes}
    (encodes : Encodes t encoding bytes) (files : FileTree) (stdin : Stdin) :
    decode bytes = ⟨t.toList, encoding⟩ ∧ decodeText bytes = t ∧
      resolve files stdin (.literal t) = .ok t ∧
      resolve files (.ok bytes) .stdin = .ok t ∧
      ∀ path, files.read path = .ok bytes → resolve files stdin (.path path) = .ok t := by
  have text := encodes.decodeText_eq
  refine ⟨encodes.decode_eq, text, rfl, ?_, fun path read => ?_⟩
  · rw [resolve, text]
  · rw [resolve, read]
    exact congrArg Except.ok text

/-- One text for every encoding: a letter with an accent, one behind two marks, a character of two
units in both orders, and a single byte that is no text in UTF-8. -/
theorem resolve_of_encodes_samples :
    let files : FileTree := ⟨[(["cafe"], .file [0xE9])], []⟩
    decodeText [0xC3, 0xA9] = "é" ∧
      decodeText [0xEF, 0xBB, 0xBF, 0xEF, 0xBB, 0xBF, 0x61] = "\uFEFFa" ∧
      decodeText [0xFF, 0xFE, 0x3D, 0xD8, 0x00, 0xDE] = "😀" ∧
      decodeText [0xFE, 0xFF, 0xD8, 0x3D, 0xDE, 0x00] = "😀" ∧
      files.read "cafe" = .ok [0xE9] ∧
      resolve files (.ok []) (.path "cafe") = .ok "é" := by
  intro files
  have accent : Encodes "é" .utf8 [0xC3, 0xA9] := .utf8 (by decide)
  have marked : Encodes "\uFEFFa" .utf8 [0xEF, 0xBB, 0xBF, 0xEF, 0xBB, 0xBF, 0x61] := .markedUtf8
  have little : Encodes "😀" .utf16le [0xFF, 0xFE, 0x3D, 0xD8, 0x00, 0xDE] := .utf16le
  have big : Encodes "😀" .utf16be [0xFE, 0xFF, 0xD8, 0x3D, 0xDE, 0x00] := .utf16be
  have single : Encodes "é" .windows1252 [0xE9] := by
    refine .windows1252 (by decide) (by decide) fun s same => ?_
    have refused : Utf8.decode? [0xE9] = none := by decide
    rw [Utf8.decode?_eq_some_iff.mpr same] at refused
    cases refused
  have read : files.read "cafe" = .ok [0xE9] := rfl
  obtain ⟨-, -, -, -, path⟩ := resolve_of_encodes single files (.ok [])
  exact ⟨(resolve_of_encodes accent files (.ok [])).2.1,
    (resolve_of_encodes marked files (.ok [])).2.1,
    (resolve_of_encodes little files (.ok [])).2.1,
    (resolve_of_encodes big files (.ok [])).2.1, read, path "cafe" read⟩

end FormLetter.Source
