import Sluice.Proofs.Json.Numeral
import Sluice.Proofs.Json.Spelling

/-!
# Values that are passed over, as they are spelled

Passing over a value takes its tokens off the front of a text (`skip_spelled`), whatever brackets
are open; this follows the tree.  The other way round, what is passed over is a tree (`skip_sound`);
this follows the run, which ends brackets that it has not begun, so a run is related to the tokens
of a value and of the rest of all that is open (`Rest`).
-/

namespace Sluice.Json

/-! ## Steps -/

section Steps

variable {o : List Bracket} {s t u v : List UInt8} {b : UInt8}

theorem skip_list_end (hs : skipBlank s = 0x5B :: t) (ht : skipBlank t = 0x5D :: u) :
    skip .value o s = skip .next o u := by
  conv => lhs; rw [skip]
  grind

theorem skip_list (hs : skipBlank s = 0x5B :: t) (ht : skipBlank t = b :: u) (hb : b ≠ 0x5D) :
    skip .value o s = skip .value (.list :: o) (b :: u) := by
  conv => lhs; rw [skip]
  grind

theorem skip_object_end (hs : skipBlank s = 0x7B :: t) (ht : skipBlank t = 0x7D :: u) :
    skip .value o s = skip .next o u := by
  conv => lhs; rw [skip]
  grind

theorem skip_object (hs : skipBlank s = 0x7B :: t) (ht : skipBlank t = b :: u) (hb : b ≠ 0x7D) :
    skip .value o s = skip .key (.object :: o) (b :: u) := by
  conv => lhs; rw [skip]
  grind

theorem skip_scalar (hs : skipBlank s = b :: t) (hlist : b ≠ 0x5B) (hobject : b ≠ 0x7B)
    (h : skipScalar (b :: t) = .ok u) : skip .value o s = skip .next o u := by
  conv => lhs; rw [skip]
  grind

theorem skip_key (hs : skipBlank s = 0x22 :: t) (ht : skipString t = .ok u)
    (hu : skipBlank u = 0x3A :: v) : skip .key o s = skip .value o v := by
  conv => lhs; rw [skip]
  grind

theorem skip_done (s : List UInt8) : skip .next [] s = .ok s := by
  rw [skip]

theorem skip_next_item (hs : skipBlank s = 0x2C :: t) :
    skip .next (.list :: o) s = skip .value (.list :: o) t := by
  conv => lhs; rw [skip]
  grind

theorem skip_next_member (hs : skipBlank s = 0x2C :: t) :
    skip .next (.object :: o) s = skip .key (.object :: o) t := by
  conv => lhs; rw [skip]
  grind

theorem skip_close_list (hs : skipBlank s = 0x5D :: t) :
    skip .next (.list :: o) s = skip .next o t := by
  conv => lhs; rw [skip]
  grind

theorem skip_close_object (hs : skipBlank s = 0x7D :: t) :
    skip .next (.object :: o) s = skip .next o t := by
  conv => lhs; rw [skip]
  grind

end Steps

/-! ## Words, numbers and strings -/

theorem word_append (w s : List UInt8) : word w (w ++ s) = .ok s := by
  induction w with
  | nil => rfl
  | cons b w ih => rw [List.cons_append, word, if_pos rfl, ih]

theorem word_sound {w s t : List UInt8} (h : word w s = .ok t) : s = w ++ t := by
  fun_induction word w s with
  | case1 => cases h; rfl
  | case2 => cases h
  | case3 _ _ _ ih => rw [ih h, List.cons_append]
  | case4 => cases h

/-- Neither a list nor an object. -/
def Token.IsScalar : Token → Prop
  | .null | .boolean _ | .number _ | .string _ => True
  | _ => False

theorem Numeral.unsigned_cons (n : Numeral) : ∃ b x, n.unsigned = b :: x ∧ isDigit b = true := by
  obtain ⟨b, x, hx, hb⟩ := n.wholeForm.exists_cons
  exact ⟨b, x ++ (n.places ++ n.power), by rw [Numeral.unsigned, hx, List.cons_append], hb⟩

theorem skipScalar_digit {b : UInt8} (hb : isDigit b = true) (s : List UInt8) :
    skipScalar (b :: s) = skipNumber (b :: s) := by
  have hne (c : UInt8) (hc : isDigit c = false) : b ≠ c := by
    rintro rfl
    rw [hb] at hc
    cases hc
  rw [skipScalar, if_neg (hne _ rfl), if_neg (hne _ rfl), if_neg (hne _ rfl), if_neg (hne _ rfl),
    if_pos hb]

theorem skipScalar_number (n : Numeral) {s : List UInt8} (hs : Quiet s) :
    skipScalar (n.bytes ++ s) = .ok s := by
  have hnumber := skipNumber_spelled n hs
  rw [Numeral.bytes]
  split
  · exact hnumber
  · obtain ⟨b, x, hx, hb⟩ := n.unsigned_cons
    rw [hx, List.cons_append] at hnumber ⊢
    rw [skipScalar_digit hb, hnumber]

theorem skipScalar_spelled {token : Token} (h : token.IsScalar) {s : List UInt8} (hs : Quiet s) :
    skipScalar (token.bytes ++ s) = .ok s := by
  cases token with
  | null => exact word_append [0x75, 0x6C, 0x6C] s
  | boolean b =>
    cases b with
    | true => exact word_append [0x72, 0x75, 0x65] s
    | false => exact word_append [0x61, 0x6C, 0x73, 0x65] s
  | number n => exact skipScalar_number n hs
  | string x =>
    rw [Token.bytes, List.cons_append, List.append_assoc, List.singleton_append]
    exact skipString_spelled x s
  | _ => exact h.elim

theorem skipScalar_sound {s u : List UInt8} (h : skipScalar s = .ok u) :
    ∃ t : Tree, ∃ token, t.tokens = [token] ∧ s = token.bytes ++ u := by
  unfold skipScalar at h
  split at h
  · cases h
  rename_i b s
  split at h
  · rename_i hb
    rw [hb, word_sound h]
    exact ⟨.null, _, rfl, rfl⟩
  split at h
  · rename_i hb
    rw [hb, word_sound h]
    exact ⟨.boolean true, _, rfl, rfl⟩
  split at h
  · rename_i hb
    rw [hb, word_sound h]
    exact ⟨.boolean false, _, rfl, rfl⟩
  split at h
  · rename_i hb
    obtain ⟨n, hn, rfl⟩ := skipNumber_sound h true
    exact ⟨.number n, _, rfl, by rw [hb, Token.bytes, Numeral.bytes, if_pos hn, List.cons_append]⟩
  split at h
  · obtain ⟨n, hn, hs⟩ := skipNumber_sound h false
    exact ⟨.number n, _, rfl, by rw [hs, Token.bytes, Numeral.bytes, if_neg (by simp [hn])]⟩
  split at h
  · rename_i hb
    obtain ⟨x, rfl⟩ := skipString_sound h
    exact ⟨.string x, _, rfl, by simp [hb, Token.bytes]⟩
  · cases h

/-! ## Whole values -/

section Fronts

variable {token : Token} {tokens : List Token} {s u : List UInt8}

/-- A value may end before a comma or a closing bracket. -/
theorem Spells.stops (h : Spells (token :: tokens) s u)
    (htoken : token = .comma ∨ token = .closeList ∨ token = .closeObject) : Stops s := by
  obtain ⟨v, hv, -⟩ := h.skipBlank_eq
  rw [Stops, hv]
  rcases htoken with rfl | rfl | rfl
  · exact closes_cons (.inl rfl) v
  · exact closes_cons (.inr (.inl rfl)) v
  · exact closes_cons (.inr (.inr rfl)) v

theorem stops_items {items : List Tree}
    (h : Spells (itemTokens false items ++ .closeList :: tokens) s u) : Stops s := by
  cases items with
  | nil => exact h.stops (.inr (.inl rfl))
  | cons t items => exact Spells.stops h (.inl rfl)

theorem stops_members {members : List (Spelling × Tree)}
    (h : Spells (memberTokens false members ++ .closeObject :: tokens) s u) : Stops s := by
  cases members with
  | nil => exact h.stops (.inr (.inr rfl))
  | cons m members => exact Spells.stops h (.inl rfl)

theorem Token.IsScalar.bytes_cons (h : token.IsScalar) :
    ∃ b x, token.bytes = b :: x ∧ b ≠ 0x5B ∧ b ≠ 0x7B := by
  cases token with
  | number n =>
    rw [Token.bytes, Numeral.bytes]
    split
    · exact ⟨_, _, rfl, by decide⟩
    · obtain ⟨b, x, hx, hb⟩ := n.unsigned_cons
      refine ⟨b, x, hx, ?_, ?_⟩ <;> rintro rfl <;> cases hb
  | boolean b => cases b <;> exact ⟨_, _, rfl, by decide⟩
  | _ => first | exact ⟨_, _, rfl, by decide⟩ | exact h.elim

/-- A value does not begin like the end of a list. -/
theorem Tree.tokens_cons (t : Tree) : ∃ token tokens, t.tokens = token :: tokens ∧
    ∃ b x, token.bytes = b :: x ∧ b ≠ 0x5D := by
  cases t with
  | null => exact ⟨_, _, rfl, _, _, rfl, by decide⟩
  | boolean b => cases b <;> exact ⟨_, _, rfl, _, _, rfl, by decide⟩
  | number n =>
    refine ⟨_, _, rfl, ?_⟩
    rw [Token.bytes, Numeral.bytes]
    split
    · exact ⟨_, _, rfl, by decide⟩
    · obtain ⟨b, x, hx, hb⟩ := n.unsigned_cons
      refine ⟨b, x, hx, ?_⟩
      rintro rfl
      cases hb
  | string x => exact ⟨_, _, rfl, _, _, rfl, by decide⟩
  | list items => exact ⟨_, _, rfl, _, _, rfl, by decide⟩
  | object members => exact ⟨_, _, rfl, _, _, rfl, by decide⟩

theorem Spells.value_cons {t : Tree} (h : Spells (t.tokens ++ tokens) s u) :
    ∃ b x, skipBlank s = b :: x ∧ b ≠ 0x5D ∧ Spells (t.tokens ++ tokens) (b :: x) u := by
  obtain ⟨token, more, ht, b, x, hx, hb⟩ := t.tokens_cons
  rw [ht, List.cons_append] at h ⊢
  obtain ⟨v, hv, hrest⟩ := h.skipBlank_eq
  have htight := hrest.tight token
  rw [hx, List.cons_append] at hv htight
  exact ⟨b, x ++ v, hv, hb, htight⟩

theorem Spells.value_of_skipBlank {t : Tree} (h : Spells (t.tokens ++ tokens) (skipBlank s) u) :
    Spells (t.tokens ++ tokens) s u := by
  obtain ⟨token, more, ht, -⟩ := t.tokens_cons
  rw [ht, List.cons_append] at h ⊢
  exact h.of_skipBlank

end Fronts

theorem skip_scalar_spelled (o : List Bracket) {token : Token} {s u : List UInt8}
    (h : Spells [token] s u) (htoken : token.IsScalar) (hu : Stops u) :
    skip .value o s = skip .next o u := by
  obtain ⟨v, hv, hrest⟩ := h.skipBlank_eq
  obtain rfl := spells_nil.1 hrest
  have hscalar := skipScalar_spelled htoken hu.quiet
  obtain ⟨b, x, hx, hlist, hobject⟩ := htoken.bytes_cons
  rw [hx, List.cons_append] at hv hscalar
  exact skip_scalar hv hlist hobject hscalar

theorem skip_key_spelled (o : List Bracket) {k : Spelling} {tokens : List Token} {s u : List UInt8}
    (h : Spells (.string k :: .colon :: tokens) s u) :
    ∃ v, skip .key o s = skip .value o v ∧ Spells tokens v u := by
  obtain ⟨v, hv, hrest⟩ := h.skipBlank_eq
  obtain ⟨w, hw, hvalue⟩ := hrest.skipBlank_eq
  rw [Token.bytes, List.cons_append, List.append_assoc, List.singleton_append] at hv
  exact ⟨w, skip_key hv (skipString_spelled k v) hw, hvalue⟩

mutual

/-- A value that is passed over takes its tokens off the front. -/
theorem skip_spelled (o : List Bracket) : (t : Tree) → {s u : List UInt8} →
    Spells t.tokens s u → Stops u → skip .value o s = skip .next o u
  | .null, _, _, h, hu => skip_scalar_spelled o h trivial hu
  | .boolean _, _, _, h, hu => skip_scalar_spelled o h trivial hu
  | .number _, _, _, h, hu => skip_scalar_spelled o h trivial hu
  | .string _, _, _, h, hu => skip_scalar_spelled o h trivial hu
  | .list [], s, u, h, _ => by
    obtain ⟨v, hv, hrest⟩ := h.skipBlank_eq
    obtain ⟨w, hw, hend⟩ := hrest.skipBlank_eq
    obtain rfl := spells_nil.1 hend
    exact skip_list_end hv hw
  | .list (t :: items), s, u, h, _ => by
    obtain ⟨v, hv, hrest⟩ := h.skipBlank_eq
    rw [itemTokens, separator, if_pos rfl, List.nil_append, List.append_assoc] at hrest
    obtain ⟨b, x, hx, hb, hvalue⟩ := hrest.value_cons
    obtain ⟨w, ht, hitems⟩ := spells_append.1 hvalue
    rw [skip_list hv hx hb, skip_spelled (.list :: o) t ht (stops_items hitems),
      skip_items o items hitems]
  | .object [], s, u, h, _ => by
    obtain ⟨v, hv, hrest⟩ := h.skipBlank_eq
    obtain ⟨w, hw, hend⟩ := hrest.skipBlank_eq
    obtain rfl := spells_nil.1 hend
    exact skip_object_end hv hw
  | .object ((k, t) :: members), s, u, h, _ => by
    obtain ⟨v, hv, hrest⟩ := h.skipBlank_eq
    rw [memberTokens, separator, if_pos rfl, List.nil_append, List.cons_append, List.cons_append,
      List.append_assoc] at hrest
    obtain ⟨x, hx, hkey⟩ := hrest.skipBlank_eq
    obtain ⟨w, hw, hvalue⟩ := skip_key_spelled (.object :: o) (hkey.tight (.string k))
    obtain ⟨y, ht, hmembers⟩ := spells_append.1 hvalue
    rw [skip_object (t := v) hv hx (by decide)]
    exact hw.trans ((skip_spelled (.object :: o) t ht (stops_members hmembers)).trans
      (skip_members o members hmembers))

theorem skip_items (o : List Bracket) : (items : List Tree) → {s u : List UInt8} →
    Spells (itemTokens false items ++ [.closeList]) s u →
      skip .next (.list :: o) s = skip .next o u
  | [], s, u, h => by
    obtain ⟨v, hv, hend⟩ := h.skipBlank_eq
    obtain rfl := spells_nil.1 hend
    exact skip_close_list hv
  | t :: items, s, u, h => by
    rw [itemTokens, separator, if_neg (by decide), List.append_assoc, List.append_assoc,
      List.singleton_append] at h
    obtain ⟨v, hv, hrest⟩ := h.skipBlank_eq
    obtain ⟨w, ht, hitems⟩ := spells_append.1 hrest
    rw [skip_next_item (t := v) hv, skip_spelled (.list :: o) t ht (stops_items hitems),
      skip_items o items hitems]

theorem skip_members (o : List Bracket) : (members : List (Spelling × Tree)) →
    {s u : List UInt8} → Spells (memberTokens false members ++ [.closeObject]) s u →
      skip .next (.object :: o) s = skip .next o u
  | [], s, u, h => by
    obtain ⟨v, hv, hend⟩ := h.skipBlank_eq
    obtain rfl := spells_nil.1 hend
    exact skip_close_object hv
  | (k, t) :: members, s, u, h => by
    rw [memberTokens, separator, if_neg (by decide), List.append_assoc, List.singleton_append,
      List.cons_append, List.cons_append, List.append_assoc] at h
    obtain ⟨v, hv, hrest⟩ := h.skipBlank_eq
    obtain ⟨w, hw, hvalue⟩ := skip_key_spelled (.object :: o) hrest
    obtain ⟨x, ht, hmembers⟩ := spells_append.1 hvalue
    rw [skip_next_member (t := v) hv, hw, skip_spelled (.object :: o) t ht (stops_members hmembers),
      skip_members o members hmembers]

end

/-! ## Whatever is passed over is a value -/

/-- The tokens that end all open brackets, from the innermost on. -/
inductive Rest : List Bracket → List Token → Prop where
  | done : Rest [] []
  | list {o tokens} (items : List Tree) (h : Rest o tokens) :
      Rest (.list :: o) (itemTokens false items ++ .closeList :: tokens)
  | object {o tokens} (members : List (Spelling × Tree)) (h : Rest o tokens) :
      Rest (.object :: o) (memberTokens false members ++ .closeObject :: tokens)

/-- The text spells what is due and the rest of all that is open. -/
def Due.Spelled (o : List Bracket) (s u : List UInt8) : Due → Prop
  | .value => ∃ (t : Tree) (tokens : List Token), Rest o tokens ∧ Spells (t.tokens ++ tokens) s u
  | .key => ∃ (k : Spelling) (t : Tree) (tokens : List Token), Rest o tokens ∧
      Spells (.string k :: .colon :: (t.tokens ++ tokens)) s u
  | .next => ∃ tokens, Rest o tokens ∧ Spells tokens s u

theorem skip_sound {due : Due} {o : List Bracket} {s u : List UInt8} (h : skip due o s = .ok u) :
    due.Spelled o s u := by
  fun_induction skip due o s with
  | case3 o s _ t _ v hs ht ih =>
    obtain ⟨tokens, hrest, hv⟩ := ih h
    exact ⟨.list [], tokens, hrest, .of_front _ hs (.of_front .closeList ht hv)⟩
  | case4 o s _ t _ b v ht hb hs ih =>
    obtain ⟨x, tokens, hrest, hv⟩ := ih h
    cases hrest with
    | list items hrest =>
      refine ⟨.list (x :: items), _, hrest, .of_front .openList hs ?_⟩
      rw [itemTokens, separator, if_pos rfl]
      simpa using (ht ▸ hv : Spells _ (skipBlank t) u).value_of_skipBlank
  | case6 o s _ t _ v hs _ ht ih =>
    obtain ⟨tokens, hrest, hv⟩ := ih h
    exact ⟨.object [], tokens, hrest, .of_front _ hs (.of_front .closeObject ht hv)⟩
  | case7 o s _ t _ b v ht hb hs _ ih =>
    obtain ⟨k, x, tokens, hrest, hv⟩ := ih h
    cases hrest with
    | object members hrest =>
      refine ⟨.object ((k, x) :: members), _, hrest, .of_front .openObject hs ?_⟩
      rw [memberTokens, separator, if_pos rfl]
      simpa using (ht ▸ hv : Spells _ (skipBlank t) u).of_skipBlank
  | case9 o s _ b t hs _ _ _ v hv _ ih =>
    obtain ⟨tokens, hrest, hu⟩ := ih h
    obtain ⟨x, token, hx, hscalar⟩ := skipScalar_sound hv
    refine ⟨x, tokens, hrest, ?_⟩
    rw [hx]
    exact .of_front _ (hs.trans hscalar) hu
  | case13 o s _ t v hv _ _ w hs hw ih =>
    obtain ⟨x, tokens, hrest, hu⟩ := ih h
    obtain ⟨k, rfl⟩ := skipString_sound hv
    refine ⟨k, x, tokens, hrest, .of_front _ ?_ (.of_front .colon hw hu)⟩
    rw [hs, Token.bytes, List.cons_append, List.append_assoc, List.singleton_append]
  | case16 s =>
    cases h
    exact ⟨[], .done, .nil⟩
  | case18 s _ o t hs ih =>
    obtain ⟨x, tokens, hrest, hv⟩ := ih h
    cases hrest with
    | list items hrest =>
      refine ⟨_, .list (x :: items) hrest, ?_⟩
      rw [itemTokens, separator, if_neg (by decide)]
      simpa using Spells.of_front .comma hs hv
  | case19 s _ o t hs _ ih =>
    obtain ⟨tokens, hrest, hv⟩ := ih h
    exact ⟨_, .list [] hrest, .of_front _ hs hv⟩
  | case22 s _ o t hs ih =>
    obtain ⟨k, x, tokens, hrest, hv⟩ := ih h
    cases hrest with
    | object members hrest =>
      refine ⟨_, .object ((k, x) :: members) hrest, ?_⟩
      rw [memberTokens, separator, if_neg (by decide)]
      simpa using Spells.of_front .comma hs hv
  | case23 s _ o t hs _ ih =>
    obtain ⟨tokens, hrest, hv⟩ := ih h
    exact ⟨_, .object [] hrest, .of_front _ hs hv⟩
  | _ => cases h

/-- Nothing but a value is passed over as one. -/
theorem skip_value_sound {s u : List UInt8} (h : skip .value [] s = .ok u) :
    ∃ t : Tree, Spells t.tokens s u := by
  obtain ⟨t, tokens, hrest, hs⟩ := skip_sound h
  cases hrest
  rw [List.append_nil] at hs
  exact ⟨t, hs⟩

end Sluice.Json
