import Mathlib.Data.Set.Function
import Sluice.Proofs.Event.Shapes
import Sluice.Proofs.Event.Wire
import Sluice.Proofs.Text.Base64.Canonical

/-!
# Bytes in attribute values

A value of bytes stands in JSON as a text in base64.  `base64_canonical` says that writing is a
bijection from bytes onto the texts of one form (`Canonical`), that reading is its inverse, and that
texts of any other form are refused, however the JSON around them is spelled.

`HoldsBytes` says that a text of base64 stands in JSON as a value of bytes.  What is read there is
what is read of that text (`taggedOn_named`), and no other JSON is read as bytes
(`taggedOn_bytes_iff`).
-/

namespace Sluice

open Json (Tree Spelling Document)

/-! ## Texts of bytes -/

open Text.Base64

theorem toList_base64Text {b : List UInt8} {ns : List Nat} {pads : Nat}
    (h : encode b = padded ns pads) :
    (base64Text b).toList = ns.map symbolChar ++ List.replicate pads '=' := by
  rw [base64Text, h, padded, List.map_append, List.map_map, List.map_replicate,
    String.toList_ofList]
  rfl

/-- The texts that are written are the canonical ones. -/
theorem canonical_iff_base64Text {t : String} : Canonical t ↔ ∃ b, base64Text b = t := by
  rw [canonical_iff_whole]
  constructor
  · rintro ⟨ns, pads, hwhole, htext⟩
    obtain ⟨b, hb⟩ := exists_encode hwhole
    exact ⟨b, String.toList_inj.1 ((toList_base64Text hb).trans htext.symm)⟩
  · rintro ⟨b, rfl⟩
    obtain ⟨ns, pads, hwhole, hb⟩ := of_decode (decode_encode b)
    exact ⟨ns, pads, hwhole, toList_base64Text hb⟩

/-- Bytes are read of the text that is written for them, and of no other. -/
theorem base64_decode_eq_ok {t : String} {b : List UInt8} :
    decode (Text.bytes t) = .ok b ↔ base64Text b = t := by
  rw [decode_eq_ok, ← bytes_base64Text, eq_comm]
  exact ⟨Text.bytes_injective, congrArg Text.bytes⟩

/-! ## Values of bytes -/

/-- The text is JSON: an object with the name of bytes, in either spelling, and a text under it. -/
def HoldsBytes (d : List UInt8) (t : String) : Prop :=
  ∃ k x, Document d (.object [(k, .string x)]) ∧ k.Names ["ceBytes", "ce_bytes"] ∧ x.text? = some t

/-- What stands under the name of bytes is read as bytes. -/
theorem taggedOn_named {k : Spelling} (hk : k.Names ["ceBytes", "ce_bytes"]) (u : Tree) :
    Json.taggedOn AttributeValue.alternatives (.object [(k, u)]) =
      (base64Reader.on u).map .bytes := by
  obtain ⟨name, hname, hk⟩ := hk
  have hnamed := AttributeValue.named?_of_mem
    (AttributeValue.alternative "ceBytes" "ce_bytes" base64Reader .bytes) (.tail _ (.head _)) name
    hname
  rw [Json.taggedOn, hk, Option.bind_some, hnamed, Option.bind_some, AttributeValue.alternative,
    Json.Reader.on_map]

/-- Bytes stand under no other name. -/
theorem taggedOn_bytes_iff {t : Tree} {b : List UInt8} :
    Json.taggedOn AttributeValue.alternatives t = some (.bytes b) ↔
      ∃ k u, t = .object [(k, u)] ∧ k.Names ["ceBytes", "ce_bytes"] ∧
        base64Reader.on u = some b := by
  have bare : ∀ a ∈ AttributeValue.alternatives, a.bare = none := by
    simp [AttributeValue.alternatives, AttributeValue.alternative]
  constructor
  · intro ht
    obtain ⟨a, ha, k, u, rfl, hk, hu⟩ :=
      (Json.taggedOn_eq_some_iff bare AttributeValue.named?_of_mem).1 ht
    simp only [AttributeValue.alternatives, List.mem_cons, List.not_mem_nil, or_false] at ha
    -- The other kinds make no bytes.
    rcases ha with rfl | rfl | rfl | rfl | rfl | rfl | rfl <;>
      simp only [AttributeValue.alternative, Json.Reader.on_map, Option.map_eq_some_iff,
        reduceCtorEq, and_false, exists_false, AttributeValue.bytes.injEq, exists_eq_right] at hu
    exact ⟨k, u, rfl, hk, hu⟩
  · rintro ⟨k, u, rfl, hk, hu⟩
    rw [taggedOn_named hk, hu]
    rfl

theorem on_base64_iff {u : Tree} {b : List UInt8} :
    base64Reader.on u = some b ↔ ∃ x, u = .string x ∧ x.text? = some (base64Text b) := by
  simp only [on_text_iff means_base64_text, base64_decode_eq_ok]
  constructor
  · rintro ⟨x, s, rfl, hx, rfl⟩
    exact ⟨x, rfl, hx⟩
  · rintro ⟨x, rfl, hx⟩
    exact ⟨x, _, rfl, hx, rfl⟩

theorem attributeValue_decode_eq_bytes {d b : List UInt8} :
    AttributeValue.reader.decode d = .ok (.bytes b) ↔ HoldsBytes d (base64Text b) := by
  simp only [means_attributeValue.decode_eq_ok, taggedOn_bytes_iff, on_base64_iff]
  constructor
  · rintro ⟨_, hd, k, _, rfl, hk, x, rfl, hx⟩
    exact ⟨k, x, hd, hk, hx⟩
  · rintro ⟨k, x, hd, hk, hx⟩
    exact ⟨_, hd, k, _, rfl, hk, x, rfl, hx⟩

/-- Under the name of bytes the value that is read is the bytes that the text is written for. -/
theorem HoldsBytes.decode_eq_ok {d : List UInt8} {t : String} {v : AttributeValue}
    (h : HoldsBytes d t) :
    AttributeValue.reader.decode d = .ok v ↔ ∃ b, v = .bytes b ∧ base64Text b = t := by
  constructor
  · intro hv
    obtain ⟨k, x, hd, hk, hx⟩ := h
    have hon := means_attributeValue.decode hd
    rw [hv, taggedOn_named hk] at hon
    obtain ⟨b, hb, rfl⟩ := Option.map_eq_some_iff.1 hon.symm
    obtain ⟨_, ⟨⟩, hx'⟩ := on_base64_iff.1 hb
    exact ⟨b, rfl, Option.some.inj (hx'.symm.trans hx)⟩
  · rintro ⟨b, rfl, rfl⟩
    exact attributeValue_decode_eq_bytes.2 h

/-- So one is read exactly if the text is canonical. -/
theorem HoldsBytes.decode_iff {d : List UInt8} {t : String} (h : HoldsBytes d t) :
    (∃ v, AttributeValue.reader.decode d = .ok v) ↔ Canonical t := by
  rw [canonical_iff_base64Text]
  constructor
  · rintro ⟨v, hv⟩
    obtain ⟨b, -, hb⟩ := h.decode_eq_ok.1 hv
    exact ⟨b, hb⟩
  · rintro ⟨b, hb⟩
    exact ⟨.bytes b, h.decode_eq_ok.2 ⟨b, rfl, hb⟩⟩

/-- Writing bytes in base64 is a bijection onto the canonical texts, and reading is its inverse.  So
however the JSON around it is spelled, a text is read as the bytes that it is written for, and is
refused if it is not canonical. -/
theorem base64_canonical :
    (∀ b, HoldsBytes (Text.bytes (AttributeValue.bytes b).toJson.render) (base64Text b) ∧
        decode (Text.bytes (base64Text b)) = .ok b) ∧
      (∀ t b, decode (Text.bytes t) = .ok b ↔ base64Text b = t) ∧
      (∀ t, (∃ b, decode (Text.bytes t) = .ok b) ↔ Canonical t) ∧
      Set.BijOn base64Text Set.univ {t | Canonical t} ∧
      (∀ d b, AttributeValue.reader.decode d = .ok (.bytes b) ↔ HoldsBytes d (base64Text b)) ∧
      ∀ d t, HoldsBytes d t →
        (∀ v, AttributeValue.reader.decode d = .ok v ↔ ∃ b, v = .bytes b ∧ base64Text b = t) ∧
          ((∃ v, AttributeValue.reader.decode d = .ok v) ↔ Canonical t) := by
  refine ⟨fun b => ⟨?_, ?_⟩, fun t b => base64_decode_eq_ok, fun t => ?_, ⟨?_, ?_, ?_⟩,
    fun d b => attributeValue_decode_eq_bytes, fun d t h => ⟨fun v => h.decode_eq_ok, h.decode_iff⟩⟩
  · exact attributeValue_decode_eq_bytes.1 (AttributeValue.reads (.bytes b)).decode
  · exact base64_decode_eq_ok.2 rfl
  · simp only [base64_decode_eq_ok, canonical_iff_base64Text]
  · exact fun b _ => canonical_iff_base64Text.2 ⟨b, rfl⟩
  · intro b _ b' _ h
    have hb := base64_decode_eq_ok.2 h
    rw [base64_decode_eq_ok.2 rfl] at hb
    exact (Except.ok.inj hb).symm
  · intro t ht
    obtain ⟨b, hb⟩ := canonical_iff_base64Text.1 ht
    exact ⟨b, trivial, hb⟩

/-- Four bytes with their text, the same text with a bit left over, and others close to it: with a
pad too few and one too many, with a blank, and with a symbol of another alphabet. -/
theorem base64_canonical_foob :
    (HoldsBytes (Text.bytes "\x7b\x22ceBytes\x22:\x22Zm9vYg==\x22\x7d") "Zm9vYg==" ∧
        AttributeValue.reader.decode (Text.bytes "\x7b\x22ceBytes\x22:\x22Zm9vYg==\x22\x7d") =
          .ok (.bytes (Text.bytes "foob"))) ∧
      (HoldsBytes (Text.bytes "\x7b\x22ce_bytes\x22:\x22Zm9vYh==\x22\x7d") "Zm9vYh==" ∧
        ¬∃ v, AttributeValue.reader.decode
          (Text.bytes "\x7b\x22ce_bytes\x22:\x22Zm9vYh==\x22\x7d") = .ok v) ∧
      ∀ t ∈ ["Zm9vYh==", "Zm9vYg=", "Zm9vYg===", "Zm9v Yg==", "Zm9v-g=="], ¬Canonical t := by
  obtain ⟨-, -, hcanonical, -, hread, hheld⟩ := base64_canonical
  have hholds : HoldsBytes (Text.bytes "\x7b\x22ceBytes\x22:\x22Zm9vYg==\x22\x7d") "Zm9vYg==" :=
    ⟨.plain "ceBytes" (by decide), .plain "Zm9vYg==" (by decide), Tree.document_text _,
      ⟨"ceBytes", .head _, Spelling.text?_plain _ _⟩, Spelling.text?_plain _ _⟩
  have hleft : HoldsBytes (Text.bytes "\x7b\x22ce_bytes\x22:\x22Zm9vYh==\x22\x7d") "Zm9vYh==" :=
    ⟨.plain "ce_bytes" (by decide), .plain "Zm9vYh==" (by decide), Tree.document_text _,
      ⟨"ce_bytes", .tail _ (.head _), Spelling.text?_plain _ _⟩, Spelling.text?_plain _ _⟩
  have htext : base64Text (Text.bytes "foob") = "Zm9vYg==" := by decide +kernel
  have hrefused : ∀ t ∈ ["Zm9vYh==", "Zm9vYg=", "Zm9vYg===", "Zm9v Yg==", "Zm9v-g=="],
      ¬Canonical t := by
    have hnone : ∀ t ∈ ["Zm9vYh==", "Zm9vYg=", "Zm9vYg===", "Zm9v Yg==", "Zm9v-g=="],
        (decode (Text.bytes t)).toOption = none := by
      decide +kernel
    intro t ht hc
    obtain ⟨b, hb⟩ := (hcanonical t).2 hc
    have hsome := hnone t ht
    rw [hb] at hsome
    cases hsome
  exact ⟨⟨hholds, (hread _ _).2 (htext ▸ hholds)⟩,
    ⟨hleft, fun hv => hrefused _ (.head _) ((hheld _ _ hleft).2.1 hv)⟩, hrefused⟩

end Sluice
