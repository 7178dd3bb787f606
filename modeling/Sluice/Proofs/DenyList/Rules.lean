import Sluice.Proofs.DenyList.Filter
import Sluice.Proofs.PrefixMatcher
import Sluice.Proofs.Text.Order

/-!
# What a list of rules denies

`Forbidden` says of a key that some rule forbids it, and `Denied` of an event that one of its keys
is forbidden.  Neither looks at the trie that the rules are kept in: empty rules, rules given twice
and their order do not come into it.  `HitAt` is the match that is to be reported for an event, and
`Decided` what is to become of a batch.

`filter_decides` is the main statement: the filter of the list made of some rules decides every
batch so.  Attributes are checked in the order of their entries, which is that of their names, and a
search along an ascending list finds the least element that there is
(`findSome?_eq_some_iff_of_pairwise`).
-/

namespace Sluice

/-- An attribute of the event is a text and not empty. -/
def Event.HasText (e : Event) (name t : String) : Prop :=
  t ≠ "" ∧ (e.attribute? name = some (.string t) ∨ e.attribute? name = some (.uri t) ∨
    e.attribute? name = some (.uriReference t))

namespace DenyList

variable (rules : List DenyRule)

/-- Some rule that is not empty starts the key, byte by byte. -/
def Forbidden (key : String) : Prop :=
  ∃ r ∈ rules, r.text ≠ "" ∧ Text.bytes r.text <+: Text.bytes key

/-- The text is the longest of the rules that start the key. -/
structure LongestRule (key text : String) : Prop where
  mem : ∃ r ∈ rules, r.text = text
  ne_empty : text ≠ ""
  isPrefix : Text.bytes text <+: Text.bytes key
  length_le : ∀ r ∈ rules, Text.bytes r.text <+: Text.bytes key →
    (Text.bytes r.text).length ≤ (Text.bytes text).length

/-- A key of the event is forbidden.  The key of the type ends in the source. -/
inductive Denied (e : Event) : Prop where
  | source : Forbidden rules ("source:" ++ e.source) → Denied e
  | type : Forbidden rules ("type:" ++ e.source) → Denied e
  | attr {name t : String} : e.HasText name t → Forbidden rules (name ++ ":" ++ t) → Denied e

/-- The match to report for an event at a place of its batch. -/
inductive HitAt (index : Nat) (e : Event) : DenyHit → Prop where
  | source {rule : String} : LongestRule rules ("source:" ++ e.source) rule →
      HitAt index e ⟨index, e.id, rule, "source", e.source⟩
  | type {rule : String} : ¬ Forbidden rules ("source:" ++ e.source) →
      LongestRule rules ("type:" ++ e.source) rule →
      HitAt index e ⟨index, e.id, rule, "type", e.type⟩
  | attr {name t rule : String} : ¬ Forbidden rules ("source:" ++ e.source) →
      ¬ Forbidden rules ("type:" ++ e.source) → e.HasText name t →
      (∀ other s, e.HasText other s → Text.bytes other < Text.bytes name →
        ¬ Forbidden rules (other ++ ":" ++ s)) →
      LongestRule rules (name ++ ":" ++ t) rule →
      HitAt index e ⟨index, e.id, rule, name, t⟩

/-- What is to become of a batch. -/
inductive Decided : List Event → FilterDecision → Prop where
  | accepted {batch : List Event} : (∀ e ∈ batch, ¬ Denied rules e) →
      Decided batch (.accept batch)
  | rejected {e : Event} {rest : List Event} {hit : DenyHit} : Denied rules e →
      HitAt rules 0 e hit → Decided (e :: rest) (.reject hit)
  | truncated {before after : List Event} {e : Event} {hit : DenyHit} : before ≠ [] →
      (∀ d ∈ before, ¬ Denied rules d) → Denied rules e → HitAt rules before.length e hit →
      Decided (before ++ e :: after) (.truncate before hit)

variable {rules}

/-! ## The list of some rules -/

theorem mem_lastValues_rules {text : String} :
    text ∈ PrefixMatcher.lastValues (rules.map fun r => (r.text, r.note)) ↔
      text ≠ "" ∧ ∃ r ∈ rules, r.text = text := by
  rw [PrefixMatcher.mem_lastValues]
  simp

theorem longestKey_iff {key text : String} :
    PrefixMatcher.LongestKey (PrefixMatcher.lastValues (rules.map fun r => (r.text, r.note))) key
      text ↔ LongestRule rules key text := by
  constructor
  · rintro ⟨hmem, hprefix, hle⟩
    obtain ⟨hne, hmem⟩ := mem_lastValues_rules.1 hmem
    refine ⟨hmem, hne, hprefix, fun r hr hkey => ?_⟩
    by_cases he : r.text = ""
    · rw [Text.bytes_eq_nil.2 he]
      exact Nat.zero_le _
    · exact hle r.text (mem_lastValues_rules.2 ⟨he, r, hr, rfl⟩) hkey
  · rintro ⟨hmem, hne, hprefix, hle⟩
    refine ⟨mem_lastValues_rules.2 ⟨hne, hmem⟩, hprefix, fun q hq hkey => ?_⟩
    obtain ⟨-, r, hr, rfl⟩ := mem_lastValues_rules.1 hq
    exact hle r hr hkey

theorem find?_eq_none_iff {key : String} :
    (ofRules rules).find? key = none ↔ ¬ Forbidden rules key := by
  have h := PrefixMatcher.holds_ofList (rules.map fun r => (r.text, r.note))
  refine h.find_eq_none_iff.trans ⟨?_, ?_⟩
  · rintro hnone ⟨r, hr, hne, hkey⟩
    exact hnone r.text (mem_lastValues_rules.2 ⟨hne, r, hr, rfl⟩) hkey
  · intro hnone q hq hkey
    obtain ⟨hne, r, hr, rfl⟩ := mem_lastValues_rules.1 hq
    exact hnone ⟨r, hr, hne, hkey⟩

theorem find?_eq_some_iff {key text : String} :
    (∃ note, (ofRules rules).find? key = some (text, note)) ↔ LongestRule rules key text := by
  have h := PrefixMatcher.holds_ofList (rules.map fun r => (r.text, r.note))
  rw [← longestKey_iff]
  constructor
  · rintro ⟨note, hfind⟩
    exact (h.find_eq_some_iff.1 hfind).1
  · intro hlongest
    obtain ⟨note, hnote⟩ := Finmap.mem_iff.1 hlongest.mem
    exact ⟨note, h.find_eq_some_iff.2 ⟨hlongest, hnote⟩⟩

theorem LongestRule.forbidden {key text : String} (h : LongestRule rules key text) :
    Forbidden rules key := by
  obtain ⟨r, hr, rfl⟩ := h.mem
  exact ⟨r, hr, h.ne_empty, h.isPrefix⟩

theorem HitAt.denied {index : Nat} {e : Event} {hit : DenyHit} (h : HitAt rules index e hit) :
    Denied rules e := by
  cases h with
  | source h => exact .source h.forbidden
  | type _ h => exact .type h.forbidden
  | attr _ _ ht _ h => exact .attr ht h.forbidden

/-! ## The attributes of an event -/

/-- Along an ascending list a search finds the least of the elements that it looks for. -/
theorem findSome?_eq_some_iff_of_pairwise {α β : Type} {r : α → α → Prop}
    (hr : ∀ a b, r a b → ¬ r b a) {f : α → Option β} {b : β} {l : List α} (hl : l.Pairwise r) :
    l.findSome? f = some b ↔ ∃ a ∈ l, f a = some b ∧ ∀ x ∈ l, r x a → f x = none := by
  induction l with
  | nil => simp
  | cons a l ih =>
    obtain ⟨ha, hl⟩ := List.pairwise_cons.1 hl
    rw [List.findSome?_cons]
    cases hf : f a with
    | none =>
      simp only [ih hl]
      constructor
      · rintro ⟨x, hx, hfx, hleast⟩
        refine ⟨x, List.mem_cons_of_mem a hx, hfx, fun y hy hyx => ?_⟩
        obtain rfl | hy := List.mem_cons.1 hy
        · exact hf
        · exact hleast y hy hyx
      · rintro ⟨x, hx, hfx, hleast⟩
        obtain rfl | hx := List.mem_cons.1 hx
        · rw [hf] at hfx
          cases hfx
        · exact ⟨x, hx, hfx, fun y hy => hleast y (List.mem_cons_of_mem a hy)⟩
    | some c =>
      constructor
      · rintro ⟨⟩
        refine ⟨a, List.mem_cons_self, hf, fun y hy hya => ?_⟩
        obtain rfl | hy := List.mem_cons.1 hy
        · exact absurd hya (hr y y hya)
        · exact absurd hya (hr a y (ha y hy))
      · rintro ⟨x, hx, hfx, hleast⟩
        obtain rfl | hx := List.mem_cons.1 hx
        · exact hf.symm.trans hfx
        · have hnone := hleast a List.mem_cons_self (ha x hx)
          rw [hf] at hnone
          cases hnone

variable {e : Event}

/-- The keys of the attributes. -/
def attributeKeys (e : Event) : List DenyKey :=
  e.attributes.entries.filterMap fun (name, v) => attributeKey? name v

theorem attributeKey?_eq_some_iff {name : String} {v : AttributeValue} {k : DenyKey} :
    attributeKey? name v = some k ↔ ∃ t, v.text? = some t ∧ t ≠ "" ∧ k = ⟨name, t, t⟩ := by
  unfold attributeKey?
  cases v.text? with
  | none => simp
  | some t =>
    by_cases he : t = ""
    · simp [he]
    · simp only [String.isEmpty_iff, he, if_false, Option.some.injEq, exists_eq_left', ne_eq,
        not_false_eq_true, true_and]
      exact eq_comm

theorem text?_eq_some_iff {v : AttributeValue} {t : String} :
    v.text? = some t ↔ v = .string t ∨ v = .uri t ∨ v = .uriReference t := by
  cases v <;> simp [AttributeValue.text?]

theorem mem_attributeKeys {k : DenyKey} :
    k ∈ attributeKeys e ↔ ∃ name t, e.HasText name t ∧ k = ⟨name, t, t⟩ := by
  have hmem (name : String) (v : AttributeValue) :
      (name, v) ∈ e.attributes.entries ↔ e.attribute? name = some v :=
    (Entries.get?_eq_some_iff e.attributes.ascending).symm
  unfold attributeKeys
  rw [List.mem_filterMap]
  constructor
  · rintro ⟨⟨name, v⟩, hv, hk⟩
    obtain ⟨t, ht, hne, rfl⟩ := attributeKey?_eq_some_iff.1 hk
    refine ⟨name, t, ⟨hne, ?_⟩, rfl⟩
    have hvalue := (hmem name v).1 hv
    obtain rfl | rfl | rfl := text?_eq_some_iff.1 ht
    · exact .inl hvalue
    · exact .inr (.inl hvalue)
    · exact .inr (.inr hvalue)
  · rintro ⟨name, t, ⟨hne, hv⟩, rfl⟩
    obtain hv | hv | hv := hv
    · exact ⟨(name, .string t), (hmem name _).2 hv, attributeKey?_eq_some_iff.2 ⟨t, rfl, hne, rfl⟩⟩
    · exact ⟨(name, .uri t), (hmem name _).2 hv, attributeKey?_eq_some_iff.2 ⟨t, rfl, hne, rfl⟩⟩
    · exact ⟨(name, .uriReference t), (hmem name _).2 hv,
        attributeKey?_eq_some_iff.2 ⟨t, rfl, hne, rfl⟩⟩

theorem pairwise_attributeKeys :
    (attributeKeys e).Pairwise fun a b => a.dimension < b.dimension := by
  refine List.Pairwise.filterMap _ (fun p q hpq k hk k' hk' => ?_) e.attributes.ascending
  obtain ⟨t, -, -, rfl⟩ := attributeKey?_eq_some_iff.1 hk
  obtain ⟨t', -, -, rfl⟩ := attributeKey?_eq_some_iff.1 hk'
  exact hpq

/-! ## One event -/

/-- The match of a list in a key. -/
def keyMatch? (list : DenyList) (index : Nat) (e : Event) (k : DenyKey) : Option DenyHit :=
  (list.find? k.text).map fun (rule, _) => ⟨index, e.id, rule, k.dimension, k.reported⟩

theorem keyMatch?_eq_none_iff {index : Nat} {k : DenyKey} :
    keyMatch? (ofRules rules) index e k = none ↔ ¬ Forbidden rules k.text := by
  rw [keyMatch?, Option.map_eq_none_iff, find?_eq_none_iff]

theorem keyMatch?_eq_some_iff {index : Nat} {k : DenyKey} {hit : DenyHit} :
    keyMatch? (ofRules rules) index e k = some hit ↔
      ∃ rule, LongestRule rules k.text rule ∧
        hit = ⟨index, e.id, rule, k.dimension, k.reported⟩ := by
  rw [keyMatch?, Option.map_eq_some_iff]
  constructor
  · rintro ⟨⟨rule, note⟩, hfind, rfl⟩
    exact ⟨rule, find?_eq_some_iff.1 ⟨note, hfind⟩, rfl⟩
  · rintro ⟨rule, hlongest, rfl⟩
    obtain ⟨note, hfind⟩ := find?_eq_some_iff.2 hlongest
    exact ⟨(rule, note), hfind, rfl⟩

theorem match?_eq (list : DenyList) (index : Nat) (e : Event) :
    list.match? index e =
      ((keyMatch? list index e ⟨"source", e.source, e.source⟩).or
        ((keyMatch? list index e ⟨"type", e.source, e.type⟩).or
          ((attributeKeys e).findSome? (keyMatch? list index e)))) := by
  show List.findSome? (keyMatch? list index e)
    (⟨"source", e.source, e.source⟩ :: ⟨"type", e.source, e.type⟩ :: attributeKeys e) = _
  rw [List.findSome?_cons, List.findSome?_cons]
  cases keyMatch? list index e ⟨"source", e.source, e.source⟩ with
  | some hit => rfl
  | none =>
    cases keyMatch? list index e ⟨"type", e.source, e.type⟩ with
    | some hit => rfl
    | none => rfl

theorem text_source (reported : String) :
    (DenyKey.mk "source" e.source reported).text = "source:" ++ e.source := rfl

theorem text_type (reported : String) :
    (DenyKey.mk "type" e.source reported).text = "type:" ++ e.source := rfl

theorem attributeMatch?_eq_some_iff {index : Nat} {hit : DenyHit} :
    (attributeKeys e).findSome? (keyMatch? (ofRules rules) index e) = some hit ↔
      ∃ name t rule, e.HasText name t ∧
        (∀ other s, e.HasText other s → Text.bytes other < Text.bytes name →
          ¬ Forbidden rules (other ++ ":" ++ s)) ∧
        LongestRule rules (name ++ ":" ++ t) rule ∧ hit = ⟨index, e.id, rule, name, t⟩ := by
  rw [findSome?_eq_some_iff_of_pairwise (fun _ _ => String.lt_asymm) pairwise_attributeKeys]
  constructor
  · rintro ⟨k, hk, hmatch, hleast⟩
    obtain ⟨name, t, ht, rfl⟩ := mem_attributeKeys.1 hk
    obtain ⟨rule, hrule, rfl⟩ := keyMatch?_eq_some_iff.1 hmatch
    refine ⟨name, t, rule, ht, fun other s hs hlt => ?_, hrule, rfl⟩
    exact keyMatch?_eq_none_iff.1 (hleast ⟨other, s, s⟩ (mem_attributeKeys.2 ⟨other, s, hs, rfl⟩)
      (Text.bytes_lt_iff.1 hlt))
  · rintro ⟨name, t, rule, ht, hleast, hrule, rfl⟩
    refine ⟨⟨name, t, t⟩, mem_attributeKeys.2 ⟨name, t, ht, rfl⟩,
      keyMatch?_eq_some_iff.2 ⟨rule, hrule, rfl⟩, fun k hk hlt => ?_⟩
    obtain ⟨other, s, hs, rfl⟩ := mem_attributeKeys.1 hk
    exact keyMatch?_eq_none_iff.2 (hleast other s hs (Text.bytes_lt_iff.2 hlt))

theorem match?_eq_some_iff {index : Nat} {hit : DenyHit} :
    (ofRules rules).match? index e = some hit ↔ HitAt rules index e hit := by
  rw [match?_eq, Option.or_eq_some_iff, Option.or_eq_some_iff, keyMatch?_eq_some_iff,
    keyMatch?_eq_some_iff, keyMatch?_eq_none_iff, keyMatch?_eq_none_iff,
    attributeMatch?_eq_some_iff, text_source, text_type]
  constructor
  · rintro (⟨rule, hrule, rfl⟩ | ⟨hsource, ⟨rule, hrule, rfl⟩ | ⟨htype, hattr⟩⟩)
    · exact .source hrule
    · exact .type hsource hrule
    · obtain ⟨name, t, rule, ht, hleast, hrule, rfl⟩ := hattr
      exact .attr hsource htype ht hleast hrule
  · rintro (hrule | ⟨hsource, hrule⟩ | ⟨hsource, htype, ht, hleast, hrule⟩)
    · exact .inl ⟨_, hrule, rfl⟩
    · exact .inr ⟨hsource, .inl ⟨_, hrule, rfl⟩⟩
    · exact .inr ⟨hsource, .inr ⟨htype, _, _, _, ht, hleast, hrule, rfl⟩⟩

theorem match?_eq_none_iff {index : Nat} :
    (ofRules rules).match? index e = none ↔ ¬ Denied rules e := by
  rw [match?_eq, Option.or_eq_none_iff, Option.or_eq_none_iff, keyMatch?_eq_none_iff,
    keyMatch?_eq_none_iff, List.findSome?_eq_none_iff, text_source, text_type]
  constructor
  · rintro ⟨hsource, htype, hattrs⟩ (h | h | ⟨ht, h⟩)
    · exact hsource h
    · exact htype h
    · exact keyMatch?_eq_none_iff.1 (hattrs _ (mem_attributeKeys.2 ⟨_, _, ht, rfl⟩)) h
  · intro hnot
    refine ⟨fun h => hnot (.source h), fun h => hnot (.type h), fun k hk => ?_⟩
    obtain ⟨name, t, ht, rfl⟩ := mem_attributeKeys.1 hk
    exact keyMatch?_eq_none_iff.2 fun h => hnot (.attr ht h)

/-! ## A batch -/

theorem filter_decided (rules : List DenyRule) (batch : List Event) :
    Decided rules batch ((ofRules rules).filter batch) := by
  obtain ⟨hnone, -, hfilter⟩ | ⟨before, e, after, hit, rfl, -, hnone, hmatch, hfilter⟩ :=
    filter_cases (ofRules rules) batch
  · rw [hfilter]
    exact .accepted fun e he => match?_eq_none_iff.1 (hnone e he)
  · have hhit : HitAt rules before.length e hit := match?_eq_some_iff.1 hmatch
    have hdenied : Denied rules e := hhit.denied
    rw [hfilter]
    by_cases hb : before = []
    · subst hb
      exact .rejected hdenied hhit
    · rw [if_neg fun hlen => hb (List.length_eq_zero_iff.1 hlen)]
      exact .truncated hb (fun d hd => match?_eq_none_iff.1 (hnone d hd)) hdenied hhit

theorem Decided.accept_iff {batch : List Event} {d : FilterDecision} (h : Decided rules batch d) :
    d = .accept batch ↔ ∀ e ∈ batch, ¬ Denied rules e := by
  cases h with
  | accepted hnone => exact ⟨fun _ => hnone, fun _ => rfl⟩
  | rejected hdenied hhit =>
    constructor
    · intro he
      cases he
    · intro hnone
      exact absurd hdenied (hnone _ List.mem_cons_self)
  | truncated hb hnone hdenied hhit =>
    constructor
    · intro he
      cases he
    · intro hall
      exact absurd hdenied (hall _ List.mem_append_cons_self)

theorem Decided.reject_iff {batch : List Event} {d : FilterDecision} (h : Decided rules batch d) :
    (∃ hit, d = .reject hit) ↔ ∃ e, batch.head? = some e ∧ Denied rules e := by
  cases h with
  | accepted hnone =>
    constructor
    · rintro ⟨hit, he⟩
      cases he
    · rintro ⟨e, he, hdenied⟩
      exact absurd hdenied (hnone e (List.mem_of_head? he))
  | rejected hdenied hhit => exact ⟨fun _ => ⟨_, rfl, hdenied⟩, fun _ => ⟨_, rfl⟩⟩
  | truncated hb hnone hdenied hhit =>
    constructor
    · rintro ⟨hit, he⟩
      cases he
    · rintro ⟨e, he, hfirst⟩
      rw [List.head?_append_of_ne_nil _ hb] at he
      exact absurd hfirst (hnone e (List.mem_of_head? he))

/-- No event that is let through is denied. -/
theorem Decided.allowed {batch : List Event} {d : FilterDecision} (h : Decided rules batch d) :
    ∀ e ∈ d.allowed, ¬ Denied rules e := by
  cases h with
  | accepted hnone => exact hnone
  | rejected _ _ => exact fun e he => absurd he List.not_mem_nil
  | truncated _ hnone _ _ => exact hnone

/-- The filter of a list made of rules decides every batch by what the rules say: it accepts the
batch if no event is denied, rejects it if the first one is, and cuts it off before the first event
denied otherwise.  The match reported is the one to report, and what is let through is let through
again. -/
theorem filter_decides (rules : List DenyRule) (batch : List Event) :
    Decided rules batch ((ofRules rules).filter batch) ∧
    ((ofRules rules).filter batch = .accept batch ↔ ∀ e ∈ batch, ¬ Denied rules e) ∧
    ((∃ hit, (ofRules rules).filter batch = .reject hit) ↔
      ∃ e, batch.head? = some e ∧ Denied rules e) ∧
    (∀ index e hit, (ofRules rules).match? index e = some hit ↔ HitAt rules index e hit) ∧
    (∀ index e, (ofRules rules).match? index e = none ↔ ¬ Denied rules e) ∧
    (ofRules rules).filter ((ofRules rules).filter batch).allowed =
      .accept ((ofRules rules).filter batch).allowed := by
  have h := filter_decided rules batch
  refine ⟨h, h.accept_iff, h.reject_iff, fun _ _ _ => match?_eq_some_iff,
    fun _ _ => match?_eq_none_iff, ?_⟩
  exact (filter_decided rules _).accept_iff.2 h.allowed

end DenyList

end Sluice
