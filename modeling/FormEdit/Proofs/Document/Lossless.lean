import FormEdit.Proofs.Document.Place

set_option autoImplicit false

/-! # Nothing of a source is lost

The tokens of a source tile it from offset zero, those of a document are the tokens it was built
from, and those of a node are a run of them. So each of the three has the text of the piece of
source that it stands for (`Document.lossless`). -/

namespace FormEdit

namespace Token

/-- Whether tokens have texts, the first starts at the offset `o` and each of the others starts
    where the one before it ends. -/
def Tiles : Int → List Token → Prop
  | _, [] => True
  | o, t :: ts => t.offset = o ∧ t.text ≠ [] ∧ Tiles (o + t.text.length) ts

theorem IsScan.tiles {o : Int} {ts : List Token} (h : IsScan o ts) : Tiles o ts := by
  induction ts generalizing o with
  | nil => trivial
  | cons t ts ih =>
    obtain ⟨ho, hw, -, hs⟩ := h
    exact ⟨ho, hw.text_ne_nil, ih hs⟩

theorem tiles_append {o : Int} {ts us : List Token} :
    Tiles o (ts ++ us) ↔ Tiles o ts ∧ Tiles (o + (textOf ts).length) us := by
  induction ts generalizing o with
  | nil => simp [Tiles]
  | cons t ts ih =>
    rw [List.cons_append, Tiles, Tiles, ih, offset_textOf_cons]
    simp only [and_assoc]

/-- A token among tokens that tile a text starts behind the text of those before it. -/
theorem Tiles.offset_eq {us vs : List Token} {t : Token} (h : Tiles 0 (us ++ t :: vs)) :
    t.offset = (textOf us).length := by
  have := (tiles_append.1 h).2.1
  omega

/-- A run of tokens that tile a text makes up the piece of it where the first of them starts. -/
theorem Tiles.textOf_eq {us ts vs : List Token} {t : Token} (h : Tiles 0 (us ++ ts ++ vs))
    (ht : ts.head? = some t) :
    0 ≤ t.offset ∧
      textOf ts = ((textOf (us ++ ts ++ vs)).drop t.offset.toNat).take (textOf ts).length := by
  obtain ⟨rest, rfl⟩ : ∃ rest, ts = t :: rest := by
    cases ts with
    | nil => cases ht
    | cons u rest => exact ⟨rest, by simpa using ht⟩
  have hoff : t.offset = (textOf us).length := by
    rw [List.append_assoc, List.cons_append] at h
    exact h.offset_eq
  refine ⟨by omega, ?_⟩
  have hnat : t.offset.toNat = (textOf us).length := by omega
  rw [hnat, textOf_append, textOf_append, List.append_assoc, List.drop_left, List.take_left]

end Token

/-- A node has a first token. -/
theorem Node.exists_head? (n : Node) : ∃ t, n.tokens.head? = some t := by
  cases n with
  | leaf t => exact ⟨t, rfl⟩
  | delimited b o cs c => exact ⟨o, by simp⟩
  | marked m cs => exact ⟨m, by simp⟩

namespace Document

/-- The tokens of a document that was read tile its source. -/
theorem tiles_of_parse {source : List Char} {d : Document} (h : parse source = .ok d) :
    Token.Tiles 0 (Node.tokensOf d.nodes) :=
  (parse_eq_ok_iff.1 h).2.2.1.tiles

/-- A node of a document has the text of the source at the offset of its first token. -/
theorem text_of_node? {source : List Char} {d : Document} (h : parse source = .ok d) {i : Nat}
    {up : Trail} {n : Node} (hn : d.node? i up = some n) :
    ∃ t, n.tokens.head? = some t ∧ 0 ≤ t.offset ∧
      n.text = (source.drop t.offset.toNat).take n.text.length := by
  obtain ⟨us, vs, htok⟩ := tokensOf_eq_of_node? hn
  obtain ⟨t, ht⟩ := n.exists_head?
  have htiles := tiles_of_parse h
  rw [htok] at htiles
  have htext : Token.textOf (us ++ n.tokens ++ vs) = source := by
    rw [← htok]
    exact (parse_eq_ok_iff.1 h).2.1
  obtain ⟨hpos, heq⟩ := htiles.textOf_eq ht
  rw [htext] at heq
  exact ⟨t, ht, hpos, heq⟩

/-- Tokens tile the source that they are cut from and make it up. A document that is read has the
    text of the source, and so has each node in it where its first token starts. A document built
    of any tokens has their text. -/
theorem lossless :
    (∀ source ts, tokenize source = .ok ts → Token.Tiles 0 ts ∧ Token.textOf ts = source) ∧
    (∀ source d, parse source = .ok d → d.text = source ∧
      ∀ i up n, d.node? i up = some n → ∃ t, n.tokens.head? = some t ∧ 0 ≤ t.offset ∧
        n.text = (source.drop t.offset.toNat).take n.text.length) ∧
    ∀ ts source d, ofTokens ts source = .ok d → d.text = Token.textOf ts := by
  refine ⟨fun source ts h => ?_, fun source d h => ?_, fun ts source d h => ?_⟩
  · obtain ⟨htext, hscan⟩ := tokenize_eq_ok_iff.1 h
    exact ⟨hscan.tiles, htext⟩
  · exact ⟨(parse_eq_ok_iff.1 h).2.1, fun i up n hn => text_of_node? h hn⟩
  · obtain ⟨-, rfl, -⟩ := ofTokens_eq_ok_iff.1 h
    rfl

end Document

end FormEdit
