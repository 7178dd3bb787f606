import Sluice.Proofs.Event.Body
import Sluice.Proofs.Event.Meaning

/-!
# The shapes of bodies

An event is read in two shapes: as an object of its fields under their names, and as a list of the
values of its first fields, in the order of the record (`IsEvent`).  A batch is read as an object
with the list of its events, and as a list of nothing but that list (`IsBatch`).  `accepted_shapes`
says that exactly these bodies are accepted, if their lengths are within the bounds, and that all
else is refused with a code of validation.  Only the objects are the documented shapes; the bodies
of `positional_accepted` are in the other ones.

The shapes are told by the names of fields and by what stands under them (`Layout`), apart from how
they are read.  `Record.Fits` says that a record reads exactly its layout (`exists_object_iff`,
`exists_list_iff`), and `Alternative.Fits` says the same of values that are told apart by a name
(`exists_tagged_iff`).
-/

namespace Sluice

open Json (Tree Spelling Document)

theorem exists_of_forall₂ {α β : Type} {R : α → β → Prop} {xs : List α} {ys : List β}
    (h : List.Forall₂ R xs ys) {y : β} (hy : y ∈ ys) : ∃ x ∈ xs, R x y := by
  induction h with
  | nil => cases hy
  | cons hxy _ ih =>
    rcases List.mem_cons.1 hy with rfl | hy
    · exact ⟨_, List.mem_cons_self, hxy⟩
    · obtain ⟨x, hx, h⟩ := ih hy
      exact ⟨x, List.mem_cons_of_mem _ hx, h⟩

theorem forall₂_congr_left {α β γ : Type} {R : α → β → Prop} {S : α → γ → Prop} {T : β → γ → Prop}
    (hT : ∀ a b c, R a b → (S a c ↔ T b c)) {xs : List α} {ys : List β} {zs : List γ}
    (h : List.Forall₂ R xs ys) : List.Forall₂ S xs zs ↔ List.Forall₂ T ys zs := by
  induction h generalizing zs with
  | nil => simp
  | cons hxy _ ih =>
    cases zs with
    | nil => simp
    | cons z zs => rw [List.forall₂_cons, List.forall₂_cons, hT _ _ z hxy, ih]

namespace Json

/-! ## Layouts -/

/-- The key is one of some names. -/
def Spelling.Names (k : Spelling) (names : List String) : Prop :=
  ∃ name ∈ names, k.text? = some name

/-- A field as it is documented: its names and what stands under them. -/
structure Slot where
  names : List String
  Holds : Tree → Prop

/-- The fields of a record in order, or the kinds of a value. -/
abbrev Layout := List Slot

/-- The members of an object with this layout: their keys are texts, no two of them name one field,
and what stands under the name of a field is a value of it. -/
structure Layout.Object (layout : Layout) (ms : List (Spelling × Tree)) : Prop where
  keys : ∀ m ∈ ms, m.1.text?.isSome
  once : ms.Pairwise fun a b => ∀ f ∈ layout, a.1.Names f.names → ¬b.1.Names f.names
  typed : ∀ f ∈ layout, ∀ m ∈ ms, m.1.Names f.names → f.Holds m.2

/-- The items of a list with this layout: values of the first fields. -/
def Layout.Listed (layout : Layout) (items : List Tree) : Prop :=
  List.Forall₂ (fun f t => f.Holds t) (layout.take items.length) items

/-- An object with exactly one member: the name of a kind and a value of it. -/
def Layout.Tagged (layout : Layout) (t : Tree) : Prop :=
  ∃ f ∈ layout, ∃ k u, t = .object [(k, u)] ∧ k.Names f.names ∧ f.Holds u

/-! ### Records -/

/-- All names of a field. -/
def Field.names {α : Type} (f : Field α) : List String := f.name :: f.aliases

/-- A field is read as it is documented. -/
def Field.Fits {α : Type} (f : Field α) (slot : Slot) : Prop :=
  slot.names = f.names ∧ ∀ t, (f.value.on t).isSome ↔ slot.Holds t

/-- A record is read as it is documented, and its fields have different names. -/
structure Record.Fits {α : Type} (r : Record α) (layout : Layout) : Prop where
  fields : List.Forall₂ Field.Fits r.fields layout
  apart : ∀ f ∈ r.fields, ∀ name ∈ f.names, r.field? name = some f

theorem Record.field?_eq_find? {α : Type} (r : Record α) (key : String) :
    r.field? key = r.fields.find? fun f => f.names.contains key := by
  rw [Record.field?]
  congr 1
  funext f
  rw [Field.names, List.contains_cons, BEq.comm]

/-- A key is one of the names of the field that it names. -/
theorem Record.mem_names_of_field? {α : Type} {r : Record α} {key : String} {f : Field α}
    (h : r.field? key = some f) : key ∈ f.names := by
  rw [Record.field?_eq_find?] at h
  have hmatch := List.find?_some h
  exact List.contains_iff_mem.1 hmatch

theorem Record.names_of_fieldOf? {α : Type} {r : Record α} {k : Spelling} {f : Field α}
    (h : r.fieldOf? k = some f) : f ∈ r.fields ∧ k.Names f.names := by
  obtain ⟨key, hkey, hf⟩ := Option.bind_eq_some_iff.1 h
  exact ⟨List.mem_of_find?_eq_some hf, key, Record.mem_names_of_field? hf, hkey⟩

namespace Record.Fits

variable {α : Type} {r : Record α} {layout : Layout} {ms : List (Spelling × Tree)}
  {items : List Tree}

theorem fieldOf?_of_names (h : r.Fits layout) {f : Field α} (hf : f ∈ r.fields) {k : Spelling}
    (hk : k.Names f.names) : r.fieldOf? k = some f := by
  obtain ⟨name, hname, hk⟩ := hk
  rw [Record.fieldOf?, hk, Option.bind_some]
  exact h.apart f hf name hname

/-- Fields of one name are one field. -/
theorem eq_of_name (h : r.Fits layout) {f g : Field α} (hf : f ∈ r.fields) (hg : g ∈ r.fields)
    (hname : f.name = g.name) : f = g := by
  have hfg := h.apart f hf f.name List.mem_cons_self
  rw [hname, h.apart g hg g.name List.mem_cons_self] at hfg
  exact (Option.some.inj hfg).symm

/-- The members taken in have the layout. -/
theorem object (h : r.Fits layout) {p q : Partial α} (hon : r.asObject.on p ms = some q) :
    layout.Object ms := by
  have htaken := Record.taken_of_on hon
  refine ⟨htaken.keys, htaken.once.imp fun hab slot hslot ha hb => ?_, fun slot hslot m hm hk => ?_⟩
  · obtain ⟨f, hf, hnames, -⟩ := exists_of_forall₂ h.fields hslot
    rw [hnames] at ha hb
    exact hab f (h.fieldOf?_of_names hf ha) (h.fieldOf?_of_names hf hb)
  · obtain ⟨f, hf, hnames, hholds⟩ := exists_of_forall₂ h.fields hslot
    rw [hnames] at hk
    exact (hholds m.2).1 (htaken.values m hm f (h.fieldOf?_of_names hf hk)).2

/-- Members with the layout are taken in. -/
theorem exists_taken (h : r.Fits layout) (hms : layout.Object ms) :
    ∃ q, r.asObject.on ⟨[], r.blank⟩ ms = some q ∧
      ∀ m ∈ ms, ∀ f, r.fieldOf? m.1 = some f → f.name ∈ q.seen := by
  have hslot (f : Field α) (hf : f ∈ r.fields) : ∃ slot ∈ layout, f.Fits slot := by
    obtain ⟨slot, hslot, hfits⟩ := exists_of_forall₂ (R := flip Field.Fits) h.fields.flip hf
    exact ⟨slot, hslot, hfits⟩
  have values : ∀ m ∈ ms, ∀ f, r.fieldOf? m.1 = some f →
      f.name ∉ (⟨[], r.blank⟩ : Partial α).seen ∧ (f.value.on m.2).isSome := by
    intro m hm f hk
    obtain ⟨hf, hnames⟩ := Record.names_of_fieldOf? hk
    obtain ⟨slot, hslot, hslotNames, hholds⟩ := hslot f hf
    rw [← hslotNames] at hnames
    exact ⟨List.not_mem_nil, (hholds m.2).2 (hms.typed slot hslot m hm hnames)⟩
  have apart : ms.Pairwise fun a b =>
      ∀ f g, r.fieldOf? a.1 = some f → r.fieldOf? b.1 = some g → f.name ≠ g.name := by
    refine hms.once.imp fun hab f g ha hb hname => ?_
    obtain ⟨hf, hnames⟩ := Record.names_of_fieldOf? ha
    obtain ⟨hg, hnames'⟩ := Record.names_of_fieldOf? hb
    obtain ⟨slot, hslot, hslotNames, -⟩ := hslot f hf
    rw [← h.eq_of_name hf hg hname, ← hslotNames] at hnames'
    rw [← hslotNames] at hnames
    exact hab slot hslot hnames hnames'
  obtain ⟨q, hq, -, hseen⟩ := Record.exists_on hms.keys values apart
  exact ⟨q, hq, hseen⟩

/-- A field that must be given is named by a member. -/
theorem given (h : r.Fits layout) {q : Partial α} {a : α}
    (hon : r.asObject.on ⟨[], r.blank⟩ ms = some q) (hfinish : r.finish q = .ok a) {f : Field α}
    (hf : f ∈ r.fields) (hneeded : f.absence = .refused) :
    ∃ m ∈ ms, m.1.Names f.names := by
  have hseen := (Record.taken_of_on hon).seen f.name (Record.seen_of_finish hfinish hf hneeded)
  obtain hnone | ⟨m, hm, g, hg, hname⟩ := hseen
  · cases hnone
  obtain ⟨hmem, hnames⟩ := Record.names_of_fieldOf? hg
  exact ⟨m, hm, h.eq_of_name hmem hf hname ▸ hnames⟩

/-- The objects that are read are those with the layout and with all fields that must be given. -/
theorem exists_object_iff (h : r.Fits layout) :
    (∃ a, r.on (.object ms) = some a) ↔ layout.Object ms ∧
      ∀ f ∈ r.fields, f.absence = .refused → ∃ m ∈ ms, m.1.Names f.names := by
  constructor
  · rintro ⟨a, ha⟩
    obtain ⟨q, hq, hfinish⟩ := Option.bind_eq_some_iff.1 ha
    rw [toOption_eq_some] at hfinish
    exact ⟨h.object hq, fun f hf hneeded => h.given hq hfinish hf hneeded⟩
  · rintro ⟨hms, hgiven⟩
    obtain ⟨q, hq, hseen⟩ := h.exists_taken hms
    have hfinish : r.finish q = .ok q.value := Record.finish_of_seen fun f hf hneeded => by
      obtain ⟨m, hm, hnames⟩ := hgiven f hf hneeded
      exact hseen m hm f (h.fieldOf?_of_names hf hnames)
    refine ⟨q.value, ?_⟩
    rw [Record.on, hq, Option.bind_some, hfinish]
    rfl

/-- What lists are read: those with the layout, if the fields left out may be. -/
theorem exists_list_iff (h : r.Fits layout) :
    (∃ a, r.on (.list items) = some a) ↔ layout.Listed items ∧
      ∀ f ∈ r.fields.drop items.length, f.absence = .kept := by
  have hlisted :
      List.Forall₂ (fun f t => (f.value.on t).isSome) (r.fields.take items.length) items ↔
        List.Forall₂ (fun slot t => slot.Holds t) (layout.take items.length) items :=
    forall₂_congr_left (fun f slot t (hfits : Field.Fits f slot) => hfits.2 t)
      (List.forall₂_take items.length h.fields)
  rw [Layout.Listed, ← hlisted]
  exact exists_fieldsOn_iff

end Record.Fits

/-! ### Kinds -/

/-- A kind is read as it is documented, and only with a value. -/
def Alternative.Fits {α : Type} (a : Alternative α) (slot : Slot) : Prop :=
  slot.names = a.names ∧ a.bare = none ∧ ∀ t, (a.content.on t).isSome ↔ slot.Holds t

/-- If every kind goes by its names and has a value, what is read is read as one of the kinds. -/
theorem taggedOn_eq_some_iff {α : Type} {as : List (Alternative α)}
    (bare : ∀ a ∈ as, a.bare = none)
    (apart : ∀ a ∈ as, ∀ name ∈ a.names, named? as name = some a) {t : Tree} {v : α} :
    taggedOn as t = some v ↔
      ∃ a ∈ as, ∃ k u, t = .object [(k, u)] ∧ k.Names a.names ∧ a.content.on u = some v := by
  constructor
  · intro h
    unfold taggedOn at h
    split at h
    · rename_i k u
      obtain ⟨name, hname, h⟩ := Option.bind_eq_some_iff.1 h
      obtain ⟨a, ha, h⟩ := Option.bind_eq_some_iff.1 h
      have hfind : as.find? (·.names.contains name) = some a := ha
      have hmatch := List.find?_some hfind
      exact ⟨a, List.mem_of_find?_eq_some ha, k, u, rfl,
        ⟨name, List.contains_iff_mem.1 hmatch, hname⟩, h⟩
    · -- No kind is read without a value.
      obtain ⟨name, -, h⟩ := Option.bind_eq_some_iff.1 h
      obtain ⟨a, ha, h⟩ := Option.bind_eq_some_iff.1 h
      rw [bare a (List.mem_of_find?_eq_some ha)] at h
      cases h
    · cases h
  · rintro ⟨a, ha, k, u, rfl, ⟨name, hmem, hname⟩, hu⟩
    rw [taggedOn, hname, Option.bind_some, apart a ha name hmem, Option.bind_some, hu]

/-- If every kind goes by its names, the values that are read are those of the kinds. -/
theorem exists_tagged_iff {α : Type} {as : List (Alternative α)} {layout : Layout}
    (h : List.Forall₂ Alternative.Fits as layout)
    (apart : ∀ a ∈ as, ∀ name ∈ a.names, named? as name = some a) {t : Tree} :
    (taggedOn as t).isSome ↔ layout.Tagged t := by
  have hslot (a : Alternative α) (ha : a ∈ as) : ∃ slot ∈ layout, a.Fits slot := by
    obtain ⟨slot, hslot, hfits⟩ := exists_of_forall₂ (R := flip Alternative.Fits) h.flip ha
    exact ⟨slot, hslot, hfits⟩
  have bare (a : Alternative α) (ha : a ∈ as) : a.bare = none := by
    obtain ⟨-, -, -, hbare, -⟩ := hslot a ha
    exact hbare
  rw [Option.isSome_iff_exists]
  constructor
  · rintro ⟨v, hv⟩
    obtain ⟨a, ha, k, u, rfl, hk, hu⟩ := (taggedOn_eq_some_iff bare apart).1 hv
    obtain ⟨slot, hslot, hnames, -, hholds⟩ := hslot a ha
    exact ⟨slot, hslot, k, u, rfl, hnames ▸ hk, (hholds u).1 (by rw [hu]; rfl)⟩
  · rintro ⟨slot, hslot, k, u, rfl, hk, hu⟩
    obtain ⟨a, ha, hnames, -, hholds⟩ := exists_of_forall₂ h hslot
    obtain ⟨v, hv⟩ := Option.isSome_iff_exists.1 ((hholds u).2 hu)
    exact ⟨v, (taggedOn_eq_some_iff bare apart).2 ⟨a, ha, k, u, rfl, hnames ▸ hk, hv⟩⟩

end Json

/-! ## Values of types -/

/-- A string with a text. -/
def IsText (t : Tree) : Prop := ∃ x s, t = .string x ∧ x.text? = some s

def IsBoolean (t : Tree) : Prop := ∃ b, t = .boolean b

/-- A text that is bytes in base64. -/
def IsBase64 (t : Tree) : Prop :=
  ∃ x s b, t = .string x ∧ x.text? = some s ∧ Text.Base64.decode (Text.bytes s) = .ok b

/-- A text that is a time. -/
def IsTimestamp (t : Tree) : Prop :=
  ∃ x s v, t = .string x ∧ x.text? = some s ∧ Timestamp.read s = .ok v

/-- A whole number of 32 bits. -/
def IsInt32 (t : Tree) : Prop := ∃ n, t = .number n ∧ n.IsWhole (-2147483648) 2147483647

/-- The kinds of attribute values. -/
def kindLayout : Json.Layout :=
  [⟨["ceBoolean", "ce_boolean"], IsBoolean⟩, ⟨["ceBytes", "ce_bytes"], IsBase64⟩,
    ⟨["ceInteger", "ce_integer"], IsInt32⟩, ⟨["ceString", "ce_string"], IsText⟩,
    ⟨["ceTimestamp", "ce_timestamp"], IsTimestamp⟩, ⟨["ceUri", "ce_uri"], IsText⟩,
    ⟨["ceUriRef", "ce_uri_ref"], IsText⟩]

/-- An object with exactly one member: the name of a kind, in either spelling, and a value of it. -/
abbrev IsAttributeValue (t : Tree) : Prop := kindLayout.Tagged t

/-- An object whose values are attribute values. -/
def IsAttributes (t : Tree) : Prop :=
  ∃ ms, t = .object ms ∧ ∀ m ∈ ms, m.1.text?.isSome ∧ IsAttributeValue m.2

/-- The fields of an event. -/
def eventLayout : Json.Layout :=
  [⟨["id"], IsText⟩, ⟨["specVersion", "spec_version"], IsText⟩, ⟨["source"], IsText⟩,
    ⟨["type"], IsText⟩, ⟨["attributes"], IsAttributes⟩,
    ⟨["textData", "text_data"], fun t => t = .null ∨ IsText t⟩]

/-- A value of the shape of an event: an object with an `id`, or a list that begins with one. -/
def IsEvent (t : Tree) : Prop :=
  (∃ ms, t = .object ms ∧ eventLayout.Object ms ∧ ∃ m ∈ ms, m.1.Names ["id"]) ∨
    ∃ items, t = .list items ∧ items ≠ [] ∧ eventLayout.Listed items

section Values

variable {t : Tree}

/-- What is read of a text that is looked into. -/
theorem on_text_iff {α β : Type} {r : Json.Reader α} {f : String → Except β α} {a : α}
    (h : Json.Means r fun t => t.text?.bind fun s => (f s).toOption) :
    r.on t = some a ↔ ∃ x s, t = .string x ∧ x.text? = some s ∧ f s = .ok a := by
  rw [h.on_eq]
  constructor
  · intro ha
    obtain ⟨s, hs, hf⟩ := Option.bind_eq_some_iff.1 ha
    cases t with
    | string x => exact ⟨x, s, rfl, hs, Json.toOption_eq_some.1 hf⟩
    | _ => cases hs
  · rintro ⟨x, s, rfl, hs, ha⟩
    have htext : (Tree.string x).text? = some s := hs
    rw [htext, Option.bind_some, ha]
    rfl

theorem isSome_text_iff {α β : Type} {r : Json.Reader α} {f : String → Except β α}
    (h : Json.Means r fun t => t.text?.bind fun s => (f s).toOption) :
    (r.on t).isSome ↔ ∃ x s a, t = .string x ∧ x.text? = some s ∧ f s = .ok a := by
  simp only [Option.isSome_iff_exists, on_text_iff h]
  constructor
  · rintro ⟨a, x, s, ha⟩
    exact ⟨x, s, a, ha⟩
  · rintro ⟨x, s, a, ha⟩
    exact ⟨a, x, s, ha⟩

theorem isSome_string : (Json.Reader.string.on t).isSome ↔ IsText t := by
  rw [Json.Reader.string, (Json.means_stringAs _).on_eq, Option.isSome_iff_exists]
  constructor
  · rintro ⟨s, hs⟩
    cases t with
    | string x => exact ⟨x, s, rfl, hs⟩
    | _ => cases hs
  · rintro ⟨x, s, rfl, hs⟩
    exact ⟨s, hs⟩

theorem isSome_textOrNull : (Json.Reader.string.orNull.on t).isSome ↔ t = .null ∨ IsText t := by
  rw [← isSome_string, Json.Reader.string, (Json.means_stringAs _).orNull.on_eq,
    (Json.means_stringAs _).on_eq]
  cases t <;> simp [Json.orNullOn]

theorem isSome_boolean : (Json.Reader.boolean.on t).isSome ↔ IsBoolean t := by
  rw [Json.means_boolean.on_eq]
  cases t <;> simp [Tree.boolean?, IsBoolean]

theorem means_base64_text : Json.Means base64Reader fun t => t.text?.bind fun s =>
    (Text.Base64.decode (Text.bytes s)).toOption := by
  simpa only [Json.mapError_toOption] using means_base64

theorem isSome_base64 : (base64Reader.on t).isSome ↔ IsBase64 t := isSome_text_iff means_base64_text

theorem isSome_timestamp : (Timestamp.reader.on t).isSome ↔ IsTimestamp t := by
  have hmeans := means_timestamp
  simp only [Json.mapError_toOption] at hmeans
  exact isSome_text_iff hmeans

theorem isSome_int32 : (Json.Reader.int32.on t).isSome ↔ IsInt32 t := by
  rw [Json.means_int32.on_eq, Option.isSome_map, Option.isSome_iff_exists]
  have hiff {k : Int} : Json.wholeOn Int32.minValue.toInt Int32.maxValue.toInt t = some k ↔
      ∃ n, t = .number n ∧ n.IsWhole (-2147483648) 2147483647 ∧ n.signed = k :=
    Json.wholeOn_eq_some_iff (by decide) (by decide)
  constructor
  · rintro ⟨k, hk⟩
    obtain ⟨n, rfl, hn, -⟩ := hiff.1 hk
    exact ⟨n, rfl, hn⟩
  · rintro ⟨n, rfl, hn⟩
    exact ⟨n.signed, hiff.2 ⟨n, rfl, hn, rfl⟩⟩

/-- Every kind goes by its names. -/
theorem AttributeValue.named?_of_mem : ∀ a ∈ AttributeValue.alternatives, ∀ name ∈ a.names,
    Json.named? AttributeValue.alternatives name = some a := by
  intro a ha
  simp only [AttributeValue.alternatives, List.mem_cons, List.not_mem_nil, or_false] at ha
  rcases ha with rfl | rfl | rfl | rfl | rfl | rfl | rfl <;>
    simp [AttributeValue.alternative, Json.named?, AttributeValue.alternatives]

theorem kinds_fit : List.Forall₂ Json.Alternative.Fits AttributeValue.alternatives kindLayout := by
  have hfits {α : Type} {name other : String} {r : Json.Reader α} {f : α → AttributeValue}
      {Holds : Tree → Prop} (h : ∀ t, (r.on t).isSome ↔ Holds t) :
      (AttributeValue.alternative name other r f).Fits ⟨[name, other], Holds⟩ :=
    ⟨rfl, rfl, fun t => by
      rw [AttributeValue.alternative, Json.Reader.on_map, Option.isSome_map, h]⟩
  exact .cons (hfits fun _ => isSome_boolean) (.cons (hfits fun _ => isSome_base64)
    (.cons (hfits fun _ => isSome_int32) (.cons (hfits fun _ => isSome_string)
      (.cons (hfits fun _ => isSome_timestamp) (.cons (hfits fun _ => isSome_string)
        (.cons (hfits fun _ => isSome_string) .nil))))))

theorem isSome_attributeValue : (AttributeValue.reader.on t).isSome ↔ IsAttributeValue t := by
  rw [means_attributeValue.on_eq]
  exact Json.exists_tagged_iff kinds_fit AttributeValue.named?_of_mem

theorem isSome_attributeMembers (x : Attributes) (ms : List (Spelling × Tree)) :
    (attributeMembers.on x ms).isSome ↔ ∀ m ∈ ms, m.1.text?.isSome ∧ IsAttributeValue m.2 := by
  induction ms generalizing x with
  | nil => simp [Json.Members.on]
  | cons m ms ih =>
    obtain ⟨k, t⟩ := m
    rw [Json.Members.on_cons, attributeMembers_put, List.forall_mem_cons, ← isSome_attributeValue]
    cases k.text? with
    | none => simp
    | some name =>
      cases AttributeValue.reader.on t with
      | none => simp
      | some v => simpa using ih (x.insert name v)

theorem isSome_attributes : (Attributes.reader.on t).isSome ↔ IsAttributes t := by
  rw [means_attributes.on_eq]
  cases t with
  | object ms =>
    have hon : (Json.membersOn attributeMembers .empty .ok (.object ms)).isSome ↔
        (attributeMembers.on .empty ms).isSome := by
      rw [Json.membersOn]
      cases attributeMembers.on .empty ms <;> simp [Except.toOption]
    rw [hon, isSome_attributeMembers]
    simp [IsAttributes]
  | _ => simp [IsAttributes, Json.membersOn]

end Values

/-! ## Events -/

theorem event_fits : Event.record.Fits eventLayout where
  fields := by
    have hfits {α : Type} {r : Json.Reader α} {set : α → Event → Event} {Holds : Tree → Prop}
        (h : ∀ t, (r.on t).isSome ↔ Holds t) (t : Tree) : ((r.map set).on t).isSome ↔ Holds t := by
      rw [Json.Reader.on_map, Option.isSome_map, h]
    exact .cons ⟨rfl, hfits fun _ => isSome_string⟩ (.cons ⟨rfl, hfits fun _ => isSome_string⟩
      (.cons ⟨rfl, hfits fun _ => isSome_string⟩ (.cons ⟨rfl, hfits fun _ => isSome_string⟩
        (.cons ⟨rfl, hfits fun _ => isSome_attributes⟩
          (.cons ⟨rfl, hfits fun _ => isSome_textOrNull⟩ .nil)))))
  apart := by
    intro f hf
    simp only [Event.record, List.mem_cons, List.not_mem_nil, or_false] at hf
    rcases hf with rfl | rfl | rfl | rfl | rfl | rfl <;>
      simp [Json.Field.names, Json.Field.needed, Json.Field.defaulted, Json.Field.alsoNamed,
        Json.Record.field?, Event.record]

/-- The values that are read as events are those of the shapes. -/
theorem isEvent_iff {t : Tree} : IsEvent t ↔ ∃ e, Event.record.on t = some e := by
  cases t with
  | object ms =>
    rw [event_fits.exists_object_iff]
    have hneeded : (∀ f ∈ Event.record.fields, f.absence = .refused → ∃ m ∈ ms, m.1.Names f.names) ↔
        ∃ m ∈ ms, m.1.Names ["id"] := by
      simp [Event.record, Json.Field.needed, Json.Field.defaulted, Json.Field.alsoNamed,
        Json.Field.names]
    rw [hneeded]
    simp [IsEvent]
  | list items =>
    rw [event_fits.exists_list_iff]
    have hkept : (∀ f ∈ Event.record.fields.drop items.length, f.absence = .kept) ↔ items ≠ [] := by
      cases items with
      | nil => simp [Event.record, Json.Field.needed]
      | cons t items =>
        have htail : ∀ f ∈ Event.record.fields.drop 1, f.absence = .kept := by
          simp [Event.record, Json.Field.defaulted, Json.Field.alsoNamed]
        refine iff_of_true (fun f hf => htail f ?_) (List.cons_ne_nil t items)
        rw [List.length_cons, Nat.add_comm, ← List.drop_drop] at hf
        exact List.mem_of_mem_drop hf
    rw [hkept, and_comm]
    simp [IsEvent]
  | _ => simp [IsEvent, Json.Record.on]

/-! ## Batches -/

namespace Body

/-- A list of so many values of the shape of an event. -/
def IsEvents (count : Nat) (t : Tree) : Prop :=
  ∃ items, t = .list items ∧ items.length = count ∧ ∀ i ∈ items, IsEvent i

theorem isEvents_iff {count : Nat} {t : Tree} : IsEvents count t ↔
    ∃ events, Event.reader.list.on t = some events ∧ events.length = count := by
  rw [means_event.list.on_eq]
  cases t with
  | list items =>
    constructor
    · rintro ⟨_, ⟨⟩, rfl, hitems⟩
      obtain ⟨events, hevents⟩ := Json.exists_forall₂_iff.2 fun i hi => isEvent_iff.1 (hitems i hi)
      exact ⟨events, Json.mapM_eq_some_iff.2 hevents, hevents.length_eq.symm⟩
    · rintro ⟨events, hevents, rfl⟩
      have hitems := Json.mapM_eq_some_iff.1 hevents
      refine ⟨items, rfl, hitems.length_eq, fun i hi => isEvent_iff.2 ?_⟩
      exact Json.exists_forall₂_iff.1 ⟨events, hitems⟩ i hi
  | _ => simp [IsEvents, Json.listOn]

/-- The only field of a batch. -/
def batchLayout : Json.Layout := [⟨["events"], fun t => ∃ count, IsEvents count t⟩]

theorem eq_of_mem_fields {f : Json.Field Batch} (hf : f ∈ Batch.record.fields) :
    f = .defaulted "events" Event.reader.list fun v b => { b with events := v } :=
  List.mem_singleton.1 hf

/-- What the only field makes of a batch. -/
theorem events_of_on {f : Json.Field Batch} (hf : f ∈ Batch.record.fields) {t : Tree}
    {set : Batch → Batch} (h : f.value.on t = some set) :
    ∃ events, Event.reader.list.on t = some events ∧ ∀ b, set b = ⟨events⟩ := by
  obtain rfl := eq_of_mem_fields hf
  rw [Json.Field.defaulted, Json.Reader.on_map, Option.map_eq_some_iff] at h
  obtain ⟨events, hevents, rfl⟩ := h
  exact ⟨events, hevents, fun _ => rfl⟩

theorem batch_fits : Batch.record.Fits batchLayout where
  fields := by
    refine .cons ⟨rfl, fun t => ?_⟩ .nil
    simp only [Json.Field.defaulted, Json.Reader.on_map, Option.isSome_map, isEvents_iff]
    rw [exists_comm]
    simp [Option.isSome_iff_exists]
  apart := by
    intro f hf
    obtain rfl := eq_of_mem_fields hf
    simp [Json.Field.names, Json.Field.defaulted, Json.Record.field?, Batch.record]

/-- A value of the shape of a batch of so many events, at least one: an object with their list, or a
list of nothing but their list. -/
def IsBatch (count : Nat) (t : Tree) : Prop :=
  (∃ ms, t = .object ms ∧ batchLayout.Object ms ∧
      ∃ m ∈ ms, m.1.Names ["events"] ∧ IsEvents count m.2) ∨
    ∃ events, t = .list [events] ∧ IsEvents count events

theorem isBatch_of_on {t : Tree} {events : List Event} (h : Batch.record.on t = some ⟨events⟩)
    (hsome : events ≠ []) : IsBatch events.length t := by
  cases t with
  | object ms =>
    obtain ⟨q, hq, hfinish⟩ := Option.bind_eq_some_iff.1 h
    rw [Json.toOption_eq_some] at hfinish
    have hvalue := Json.Record.value_of_finish hfinish
    rcases Json.Record.value_of_on hq with hblank | ⟨m, hm, f, set, x, hf, hset, hlast⟩
    · cases hvalue.trans hblank
      exact absurd rfl hsome
    · refine .inl ⟨ms, rfl, batch_fits.object hq, m, hm, ?_⟩
      obtain ⟨hmem, hnames⟩ := Json.Record.names_of_fieldOf? hf
      obtain ⟨events', hevents, hset⟩ := events_of_on hmem hset
      cases hvalue.trans (hlast.trans (hset x))
      obtain rfl := eq_of_mem_fields hmem
      exact ⟨hnames, isEvents_iff.2 ⟨events, hevents, rfl⟩⟩
  | list items =>
    cases items with
    | nil =>
      cases h
      exact absurd rfl hsome
    | cons t items =>
      obtain ⟨set, hset, h⟩ := Option.bind_eq_some_iff.1 h
      obtain ⟨events', hevents, hset⟩ := events_of_on List.mem_cons_self hset
      cases items with
      | nil =>
        cases (hset Batch.record.blank).symm.trans (Option.some.inj h)
        exact .inr ⟨t, rfl, isEvents_iff.2 ⟨events, hevents, rfl⟩⟩
      | cons t' items => cases h
  | _ => cases h

theorem exists_of_isBatch {count : Nat} {t : Tree} (h : IsBatch count t) :
    ∃ events, Batch.record.on t = some ⟨events⟩ ∧ events.length = count := by
  obtain ⟨ms, rfl, hms, m, hm, hk, hcount⟩ | ⟨t, rfl, hcount⟩ := h
  · obtain ⟨events, hevents, rfl⟩ := isEvents_iff.1 hcount
    obtain ⟨q, hq, -⟩ := batch_fits.exists_taken hms
    obtain ⟨before, after, rfl⟩ := List.append_of_mem hm
    -- No other member is the list of the events, so it is the last field taken in.
    have hlast : ∀ b ∈ after, Batch.record.fieldOf? b.1 = none := by
      intro b hb
      by_contra hne
      obtain ⟨f, hf⟩ := Option.ne_none_iff_exists'.1 hne
      obtain ⟨hmem, hnames⟩ := Json.Record.names_of_fieldOf? hf
      obtain rfl := eq_of_mem_fields hmem
      have honce := (List.pairwise_cons.1 (List.pairwise_append.1 hms.once).2.1).1 b hb
      exact honce _ List.mem_cons_self hk hnames
    obtain ⟨set, x, hset, hvalue⟩ :=
      Json.Record.value_of_last hq (batch_fits.fieldOf?_of_names List.mem_cons_self hk) hlast
    obtain ⟨events', hevents', hset⟩ := events_of_on List.mem_cons_self hset
    cases hevents.symm.trans hevents'
    have hfinish : Batch.record.finish q = .ok q.value :=
      Json.Record.finish_of_seen fun f hf hneeded => by
        obtain rfl := eq_of_mem_fields hf
        cases hneeded
    refine ⟨events, ?_, rfl⟩
    rw [Json.Record.on, hq, Option.bind_some, hfinish, hvalue, hset]
    rfl
  · obtain ⟨events, hevents, rfl⟩ := isEvents_iff.1 hcount
    refine ⟨events, ?_, rfl⟩
    simp only [Batch.record, Json.Record.on, Json.fieldsOn, Json.Field.defaulted,
      Json.Reader.on_map, hevents]
    rfl

/-! ## Bodies -/

/-- A body is accepted exactly if it has one of the shapes and nothing in it is too long, and is
refused as not valid otherwise. -/
structure Shaped (body : List UInt8) : Prop where
  event : (∃ e, event body = .ok e) ↔ (∃ t, Document body t ∧ IsEvent t) ∧
    ∀ e, Event.reader.decode body = .ok e → e.violations = []
  batch (count : Nat) : (∃ events, batch body = .ok events ∧ events.length = count) ↔
    (∃ t, Document body t ∧ IsBatch count t) ∧ (1 ≤ count ∧ count ≤ 1000) ∧
      ∀ events, Batch.record.reader.decode body = .ok ⟨events⟩ → ∀ e ∈ events, e.violations = []
  eventRefused {f : Fault} (h : Body.event body = .error f) :
    f.code ∈ ["VALID_001", "VALID_002", "VALID_003"]
  batchRefused {f : Fault} (h : Body.batch body = .error f) :
    f.code ∈ ["VALID_001", "VALID_002", "VALID_003"]

theorem validation_code (code : ValidationCode) (reason : String) :
    (Fault.validation code reason).code ∈ ["VALID_001", "VALID_002", "VALID_003"] := by
  cases code <;> simp [Fault.code, ValidationCode.text]

/-- Whatever its bytes are, a body is accepted in its shapes only. -/
theorem accepted_shapes (body : List UInt8) : Shaped body where
  event := by
    constructor
    · rintro ⟨e, h⟩
      obtain ⟨hdecode, hlength⟩ := event_eq_ok.1 h
      obtain ⟨t, ht, he⟩ := means_event.decode_eq_ok.1 hdecode
      refine ⟨⟨t, ht, isEvent_iff.2 ⟨e, he⟩⟩, fun e' he' => ?_⟩
      cases hdecode.symm.trans he'
      exact hlength
    · rintro ⟨⟨t, ht, he⟩, hlength⟩
      obtain ⟨e, he⟩ := isEvent_iff.1 he
      have hdecode := means_event.decode_eq_ok.2 ⟨t, ht, he⟩
      exact ⟨e, event_eq_ok.2 ⟨hdecode, hlength e hdecode⟩⟩
  batch count := by
    constructor
    · rintro ⟨events, h, rfl⟩
      obtain ⟨hdecode, hbounds, hlength⟩ := batch_eq_ok.1 h
      obtain ⟨t, ht, hb⟩ := means_batch.decode_eq_ok.1 hdecode
      have hshape := isBatch_of_on hb (List.length_pos_iff.1 hbounds.1)
      refine ⟨⟨t, ht, hshape⟩, hbounds, fun events' hevents' => ?_⟩
      cases hdecode.symm.trans hevents'
      exact hlength
    · rintro ⟨⟨t, ht, hb⟩, hbounds, hlength⟩
      obtain ⟨events, hon, rfl⟩ := exists_of_isBatch hb
      have hdecode := means_batch.decode_eq_ok.2 ⟨t, ht, hon⟩
      exact ⟨events, batch_eq_ok.2 ⟨hdecode, hbounds, hlength events hdecode⟩, rfl⟩
  eventRefused h := by
    obtain ⟨code, reason, rfl⟩ := event_eq_error h
    exact validation_code code reason
  batchRefused h := by
    obtain ⟨code, reason, rfl⟩ := batch_eq_error h
    exact validation_code code reason

/-- A list is the text of no object. -/
theorem not_object_of_list {body : List UInt8} {items : List Tree}
    (h : Document body (.list items)) : ¬∃ ms, Document body (.object ms) := by
  rintro ⟨ms, u, hms, -⟩
  obtain ⟨w, hitems, -⟩ := h
  obtain ⟨x, hx, -⟩ := hms.skipBlank_eq
  obtain ⟨y, hy, -⟩ := hitems.skipBlank_eq
  have hbytes := hx.symm.trans hy
  cases hbytes

/-- An identity on its own in a list is accepted as an event, and the list of the list of it as a
batch; neither is an object. -/
theorem positional_accepted :
    (event (Text.bytes "[\x22e1\x22]") = .ok ⟨"e1", "", "", "", .empty, none⟩ ∧
        ¬∃ ms, Document (Text.bytes "[\x22e1\x22]") (.object ms)) ∧
      batch (Text.bytes "[[[\x22e1\x22]]]") = .ok [⟨"e1", "", "", "", .empty, none⟩] ∧
        ¬∃ ms, Document (Text.bytes "[[[\x22e1\x22]]]") (.object ms) := by
  let id : Tree := .string (.plain "e1" (by decide))
  have hid : id.text? = some "e1" := Spelling.text?_plain _ _
  have halone : Document (Text.bytes "[\x22e1\x22]") (.list [id]) := Tree.document_text _
  have hlist : Document (Text.bytes "[[[\x22e1\x22]]]") (.list [.list [.list [id]]]) :=
    Tree.document_text _
  have hevent : Event.record.on (.list [id]) = some ⟨"e1", "", "", "", .empty, none⟩ := by
    simp only [Event.record, Json.Record.on, Json.fieldsOn, Json.Field.needed, Json.Reader.on_map,
      Json.Reader.string, (Json.means_stringAs "a string").on_eq, hid]
    rfl
  have hevents : Event.reader.list.on (.list [.list [id]]) =
      some [⟨"e1", "", "", "", .empty, none⟩] := by
    rw [means_event.list.on_eq, Json.listOn, List.mapM_cons, hevent]
    rfl
  have hbatch : Batch.record.on (.list [.list [.list [id]]]) =
      some ⟨[⟨"e1", "", "", "", .empty, none⟩]⟩ := by
    simp only [Batch.record, Json.Record.on, Json.fieldsOn, Json.Field.defaulted,
      Json.Reader.on_map, hevents]
    rfl
  have haccepted := event_eq_ok.2 ⟨means_event.decode_eq_ok.2 ⟨_, halone, hevent⟩, by decide⟩
  have hbatchAccepted :=
    batch_eq_ok.2 ⟨means_batch.decode_eq_ok.2 ⟨_, hlist, hbatch⟩, by decide, by decide⟩
  exact ⟨⟨haccepted, not_object_of_list halone⟩, hbatchAccepted, not_object_of_list hlist⟩

end Body

end Sluice
