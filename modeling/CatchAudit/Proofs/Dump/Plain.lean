/-
Files of plain text. Where no character takes more than one byte and no line ends in a carriage return, a file is
read as it stands, so that it holds the document that its text spells.
-/
import CatchAudit.Proofs.Dump.Rejection

namespace CatchAudit

/-! ## Texts -/

namespace Text

/-- No character takes more than one byte, and none is a carriage return. -/
def isPlain (cs : List Char) : Bool := cs.all fun c => c.toNat ≤ 0x7f && c != '\r'

theorem isPlain_cons {c : Char} {cs : List Char} :
    isPlain (c :: cs) = true ↔ (c.toNat ≤ 0x7f ∧ c ≠ '\r') ∧ isPlain cs = true := by
  simp [isPlain]

theorem encodeUtf8_cons {c : Char} (h : c.toNat ≤ 0x7f) (cs : List Char) :
    encodeUtf8 (c :: cs) = UInt8.ofNat c.toNat :: encodeUtf8 cs := by
  have hencode : String.utf8EncodeChar c = [UInt8.ofNat c.toNat] := by
    unfold String.utf8EncodeChar
    exact if_pos h
  rw [encodeUtf8, List.flatMap_cons, hencode]
  rfl

theorem decodeFrom_encodeUtf8 : ∀ {cs : List Char} (position : Nat), isPlain cs = true →
    decodeFrom position (encodeUtf8 cs) = .ok cs
  | [], _, _ => by unfold decodeFrom; rfl
  | c :: cs, position, h => by
    obtain ⟨⟨hc, -⟩, hcs⟩ := isPlain_cons.1 h
    have hbyte : (UInt8.ofNat c.toNat).toNat = c.toNat := UInt8.toNat_ofNat_of_lt' (Nat.lt_of_le_of_lt hc (by decide))
    rw [encodeUtf8_cons hc]
    unfold decodeFrom
    dsimp only
    rw [hbyte, if_pos (by omega), decodeFrom_encodeUtf8 _ hcs, Char.ofNat_toNat]
    rfl

theorem plainLineEnds_eq : ∀ {cs : List Char}, isPlain cs = true → plainLineEnds cs = cs
  | [], _ => rfl
  | c :: cs, h => by
    obtain ⟨⟨-, hc⟩, hcs⟩ := isPlain_cons.1 h
    unfold plainLineEnds
    split
    · next heq => exact absurd (List.cons.inj heq).1 hc
    · next heq => exact absurd (List.cons.inj heq).1 hc
    · next heq =>
      cases heq
      rw [plainLineEnds_eq hcs]
    · next heq => cases heq

end Text

/-! ## Dumps -/

namespace Dump

variable {t : FileTree} {p : Path} {cs : List Char}

theorem readDocument_of_plain {d : Document} (hread : t.read p = .ok (Text.encodeUtf8 cs))
    (hplain : Text.isPlain cs = true) (hparse : Json.parse cs = .ok d) : readDocument t p = .ok d := by
  simp only [readDocument, hread, Text.decodeUtf8, Text.decodeFrom_encodeUtf8 0 hplain, Text.plainLineEnds_eq hplain,
    hparse]

end Dump

end CatchAudit
