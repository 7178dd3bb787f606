import Sluice.Broker.Record
import Sluice.Gateway.Publishing
import Sluice.Proofs.Event.Shapes
import Sluice.Proofs.Json.Order

/-!
# The presentation of a body

Two bodies are `Alike` if they differ in the order of the members of objects, at any level, and in
the spelling of the names that have two.  Blanks do not show in a tree at all.  `Level` says where
in a body a value stands, and so which names its keys are.

Nothing hangs on such differences (`Alike.same`), as long as no two members of an object name one
field or one attribute (`Proper`): every level has its own meaning (`Level.Same`), and one change at
a time keeps it.  What is not looked into means nothing (`Tree.flat`), so there any order will do.
-/

namespace Sluice

open Json (Tree Spelling Document Record Field Layout Reader Means)

namespace Json

/-! ## Names with several spellings -/

/-- Where all names lead back to what they name, two spellings of one name are of one thing. -/
theorem find?_eq_of_names {β : Type} {names : β → List String} {xs : List β}
    (apart : ∀ a ∈ xs, ∀ name ∈ names a, xs.find? (fun b => (names b).contains name) = some a)
    {x y : String} {spellings : List String}
    (hx : (xs.map names).find? (·.contains x) = some spellings)
    (hy : (xs.map names).find? (·.contains y) = some spellings) :
    xs.find? (fun b => (names b).contains x) = xs.find? fun b => (names b).contains y := by
  have hmem := List.find?_some hy
  rw [List.find?_map] at hx
  obtain ⟨a, ha, rfl⟩ := Option.map_eq_some_iff.1 hx
  have hfind : xs.find? (fun b => (names b).contains x) = some a := ha
  rw [hfind, apart a (List.mem_of_find?_eq_some ha) y (List.contains_iff_mem.1 hmem)]

/-- All spellings of the name that a key is one of. -/
def Layout.named? (layout : Layout) (key : String) : Option (List String) :=
  (layout.map (·.names)).find? (·.contains key)

namespace Record.Fits

variable {α : Type} {r : Record α} {layout : Layout}

theorem map_names (h : r.Fits layout) : r.fields.map Field.names = layout.map (·.names) := by
  obtain ⟨hfields, -⟩ := h
  generalize r.fields = fs at hfields
  induction hfields with
  | nil => rfl
  | cons hf _ ih => rw [List.map_cons, List.map_cons, ih, hf.1]

theorem field?_names (h : r.Fits layout) (key : String) :
    (r.field? key).map Field.names = layout.named? key := by
  rw [Layout.named?, ← h.map_names, List.find?_map, field?_eq_find?]
  rfl

/-- Two spellings of one name are of one field. -/
theorem field?_eq (h : r.Fits layout) {x y : String} {names : List String}
    (hx : layout.named? x = some names) (hy : layout.named? y = some names) :
    r.field? x = r.field? y := by
  rw [Layout.named?, ← h.map_names] at hx hy
  rw [field?_eq_find?, field?_eq_find?]
  refine find?_eq_of_names (fun f hf name hname => ?_) hx hy
  rw [← field?_eq_find?, h.apart f hf name hname]

theorem named?_of_fieldOf? (h : r.Fits layout) {k : Spelling} {f : Field α}
    (hf : r.fieldOf? k = some f) : k.text?.bind layout.named? = some f.names := by
  obtain ⟨key, hkey, hf⟩ := Option.bind_eq_some_iff.1 hf
  rw [hkey, Option.bind_some, ← h.field?_names, hf, Option.map_some]

/-- The members of an object may change places if they are of different names. -/
theorem on_perm (h : r.Fits layout) (hfields : r.Independent) {ms ms' : List (Spelling × Tree)}
    (hperm : ms.Perm ms')
    (apart : (ms.filterMap fun m => m.1.text?.bind layout.named?).Nodup) :
    r.on (.object ms) = r.on (.object ms') := by
  refine Record.on_perm hfields hperm ((List.pairwise_filterMap.1 apart).imp ?_)
  intro a b hab f g hf hg hname
  have hnames := hab _ (h.named?_of_fieldOf? hf) _ (h.named?_of_fieldOf? hg)
  have hsame := h.eq_of_name (names_of_fieldOf? hf).1 (names_of_fieldOf? hg).1 hname
  exact hnames (congrArg Field.names hsame)

end Record.Fits

/-! ## What is not looked into -/

/-- A value without what is in it. -/
def Tree.flat : Tree → Tree
  | .list _ => .list []
  | .object _ => .object []
  | t => t

/-- A reader does not look into lists and objects. -/
def Reader.Shallow {α : Type} (r : Reader α) : Prop := ∀ t, r.on t.flat = r.on t

theorem Reader.Shallow.map {α β : Type} {r : Reader α} (h : r.Shallow) (g : α → β) :
    (r.map g).Shallow := by
  intro t
  rw [Reader.on_map, Reader.on_map, h t]

theorem Reader.Shallow.on_eq {α : Type} {r : Reader α} (h : r.Shallow) {t t' : Tree}
    (ht : t.flat = t'.flat) : r.on t = r.on t' := by
  rw [← h t, ht, h t']

theorem Means.shallow {α : Type} {r : Reader α} {f : Tree → Option α} (h : Means r f)
    (hf : ∀ t, f t.flat = f t) : r.Shallow := by
  intro t
  rw [h.on_eq, h.on_eq, hf]

theorem Tree.text?_flat (t : Tree) : t.flat.text? = t.text? := by cases t <;> rfl

theorem Reader.shallow_string : Reader.string.Shallow := (means_stringAs _).shallow Tree.text?_flat

end Json

/-! ## Levels -/

/-- Where in a body a value stands. -/
inductive Level where
  | batch
  /-- The list of the events of a batch. -/
  | events
  | event
  | attributes
  | attributeValue
  /-- Anywhere else. -/
  | other

namespace Level

/-- The name that a key stands for, with all its spellings.  Every attribute has its own name. -/
def named? : Level → String → Option (List String)
  | .batch, key => Body.batchLayout.named? key
  | .event, key => eventLayout.named? key
  | .attributes, key => some [key]
  | .attributeValue, key => kindLayout.named? key
  | .events, _ | .other, _ => none

def nameOf? (l : Level) (k : Spelling) : Option (List String) := k.text?.bind l.named?

/-- Where the value under a key stands. -/
def under (l : Level) (k : Spelling) : Level :=
  match l with
  | .batch => if Level.batch.nameOf? k = some ["events"] then .events else .other
  | .event => if Level.event.nameOf? k = some ["attributes"] then .attributes else .other
  | .attributes => .attributeValue
  | .events | .attributeValue | .other => .other

/-- Where the items of a list stand.  A batch and an event have no business being lists. -/
def item? : Level → Option Level
  | .batch | .event => none
  | .events => some .event
  | .attributes | .attributeValue | .other => some .other

/-- The keys are the same, or two spellings of one name. -/
def SameKey (l : Level) (k k' : Spelling) : Prop :=
  k = k' ∨ ∃ names, l.nameOf? k = some names ∧ l.nameOf? k' = some names

/-- The names are those of fields or of attributes. -/
def Keyed : Level → Prop
  | .batch | .event | .attributes => True
  | .events | .attributeValue | .other => False

/-- No two members name one field or one attribute. -/
def Apart (l : Level) (ms : List (Spelling × Tree)) : Prop :=
  l.Keyed → (ms.filterMap fun m => l.nameOf? m.1).Nodup

variable {l : Level} {k k' : Spelling}

theorem SameKey.nameOf?_eq (h : l.SameKey k k') : l.nameOf? k = l.nameOf? k' := by
  obtain rfl | ⟨names, hk, hk'⟩ := h
  · rfl
  · rw [hk, hk']

theorem SameKey.under_eq (h : l.SameKey k k') : l.under k = l.under k' := by
  have hname := h.nameOf?_eq
  cases l <;> simp [under, hname]

theorem SameKey.field?_eq {α : Type} {r : Record α} {layout : Layout} (h : l.SameKey k k')
    (hr : r.Fits layout) (hl : l.named? = layout.named?) :
    k.text?.map r.field? = k'.text?.map r.field? := by
  obtain rfl | ⟨names, hk, hk'⟩ := h
  · rfl
  · obtain ⟨x, hx, hname⟩ := Option.bind_eq_some_iff.1 hk
    obtain ⟨y, hy, hname'⟩ := Option.bind_eq_some_iff.1 hk'
    rw [hl] at hname hname'
    rw [hx, hy, Option.map_some, Option.map_some, hr.field?_eq hname hname']

end Level

/-! ## Changes of presentation -/

/-- The values differ, where they stand, in the order of members and the spelling of names only. -/
inductive Alike : Level → Tree → Tree → Prop where
  | refl {l t} : Alike l t t
  | trans {l t u v} (h : Alike l t u) (h' : Alike l u v) : Alike l t v
  /-- The members stand in another order. -/
  | order {l ms ms'} (h : ms.Perm ms') : Alike l (.object ms) (.object ms')
  /-- A name is spelled differently, and what it names differs in the same ways. -/
  | member {l k k' t t' p q} (hk : l.SameKey k k') (h : Alike (l.under k) t t') :
      Alike l (.object (p ++ (k, t) :: q)) (.object (p ++ (k', t') :: q))
  | item {l l' t t' p q} (hl : l.item? = some l') (h : Alike l' t t') :
      Alike l (.list (p ++ t :: q)) (.list (p ++ t' :: q))

/-- No batch or event in the value is a list, and no two members of an object name one field or one
attribute. -/
inductive Proper : Level → Tree → Prop where
  | plain {l t} (hlist : t.kind ≠ .list) (hobject : t.kind ≠ .object) : Proper l t
  | list {l l' items} (hl : l.item? = some l') (h : ∀ t ∈ items, Proper l' t) :
      Proper l (.list items)
  | object {l ms} (apart : l.Apart ms) (h : ∀ m ∈ ms, Proper (l.under m.1) m.2) :
      Proper l (.object ms)
  /-- What is not looked into may be anything. -/
  | other {t} : Proper .other t

theorem Proper.items {l l' : Level} {items : List Tree} (h : Proper l (.list items))
    (hl : l.item? = some l') : ∀ t ∈ items, Proper l' t := by
  cases h with
  | plain hlist => exact absurd rfl hlist
  | list hl' h =>
    cases hl.symm.trans hl'
    exact h
  | other =>
    cases hl
    exact fun _ _ => .other

theorem Proper.apart {l : Level} {ms : List (Spelling × Tree)} (h : Proper l (.object ms)) :
    l.Apart ms := by
  cases h with
  | plain _ hobject => exact absurd rfl hobject
  | object apart => exact apart
  | other => exact False.elim

theorem Proper.members {l : Level} {ms : List (Spelling × Tree)} (h : Proper l (.object ms)) :
    ∀ m ∈ ms, Proper (l.under m.1) m.2 := by
  cases h with
  | plain _ hobject => exact absurd rfl hobject
  | object _ h => exact h
  | other => exact fun _ _ => .other

theorem Alike.proper {l : Level} {t t' : Tree} (h : Alike l t t') (ht : Proper l t) :
    Proper l t' := by
  induction h with
  | refl => exact ht
  | trans _ _ ih ih' => exact ih' (ih ht)
  | order hperm =>
    refine .object (fun hl => ?_) fun m hm => ht.members m (hperm.mem_iff.2 hm)
    exact (hperm.filterMap _).nodup_iff.1 (ht.apart hl)
  | member hk _ ih =>
    have hmembers := List.forall_mem_append.1 ht.members
    obtain ⟨hmember, hpost⟩ := List.forall_mem_cons.1 hmembers.2
    refine .object (fun hl => ?_)
      (List.forall_mem_append.2 ⟨hmembers.1, List.forall_mem_cons.2 ⟨?_, hpost⟩⟩)
    · have hapart := ht.apart hl
      simp only [List.filterMap_append, List.filterMap_cons] at hapart ⊢
      rwa [← hk.nameOf?_eq]
    · exact hk.under_eq ▸ ih hmember
  | item hl _ ih =>
    have hitems := List.forall_mem_append.1 (ht.items hl)
    obtain ⟨hitem, hpost⟩ := List.forall_mem_cons.1 hitems.2
    exact .list hl (List.forall_mem_append.2
      ⟨hitems.1, List.forall_mem_cons.2 ⟨ih hitem, hpost⟩⟩)

/-! ## The meaning of a level -/

/-- The values mean the same where they stand. -/
def Level.Same : Level → Tree → Tree → Prop
  | .batch, t, t' => Body.Batch.record.on t = Body.Batch.record.on t'
  | .events, t, t' => Json.listOn Event.record.on t = Json.listOn Event.record.on t'
  | .event, t, t' => Event.record.on t = Event.record.on t'
  | .attributes, t, t' =>
    Json.membersOn attributeMembers .empty .ok t = Json.membersOn attributeMembers .empty .ok t'
  | .attributeValue, t, t' =>
    Json.taggedOn AttributeValue.alternatives t = Json.taggedOn AttributeValue.alternatives t'
  | .other, t, t' => t.flat = t'.flat

theorem Level.Same.refl (l : Level) (t : Tree) : l.Same t t := by
  cases l <;> rfl

theorem Level.Same.trans {l : Level} {t u v : Tree} (h : l.Same t u) (h' : l.Same u v) :
    l.Same t v := by
  cases l <;> exact Eq.trans h h'

/-! ### Attribute values -/

theorem AttributeValue.shallow_content {a : Json.Alternative AttributeValue}
    (ha : a ∈ AttributeValue.alternatives) : a.content.Shallow := by
  simp only [AttributeValue.alternatives, List.mem_cons, List.not_mem_nil, or_false] at ha
  rcases ha with rfl | rfl | rfl | rfl | rfl | rfl | rfl
  · exact (Json.means_boolean.shallow fun t => by cases t <;> rfl).map _
  · exact (means_base64.shallow fun t => by rw [t.text?_flat]).map _
  · exact (Json.means_int32.shallow fun t => by cases t <;> rfl).map _
  · exact Json.Reader.shallow_string.map _
  · exact (means_timestamp.shallow fun t => by rw [t.text?_flat]).map _
  · exact Json.Reader.shallow_string.map _
  · exact Json.Reader.shallow_string.map _

/-- Two spellings of one name are of one kind. -/
theorem AttributeValue.named?_eq {x y : String} {names : List String}
    (hx : kindLayout.named? x = some names) (hy : kindLayout.named? y = some names) :
    Json.named? AttributeValue.alternatives x = Json.named? AttributeValue.alternatives y := by
  have hnames : kindLayout.map (·.names) = AttributeValue.alternatives.map (·.names) := rfl
  rw [Layout.named?, hnames] at hx hy
  exact Json.find?_eq_of_names AttributeValue.named?_of_mem hx hy

theorem attributeValue_perm {ms ms' : List (Spelling × Tree)} (h : ms.Perm ms') :
    Level.attributeValue.Same (.object ms) (.object ms') := by
  match ms, ms', h.length_eq with
  | [], [], _ => rfl
  | [a], [b], _ =>
    obtain rfl := List.singleton_perm_singleton.1 h
    rfl
  | _ :: _ :: _, _ :: _ :: _, _ => rfl

theorem attributeValue_member {k k' : Spelling} {t t' : Tree}
    (hk : Level.attributeValue.SameKey k k') (ht : t.flat = t'.flat)
    (pre post : List (Spelling × Tree)) : Level.attributeValue.Same
      (.object (pre ++ (k, t) :: post)) (.object (pre ++ (k', t') :: post)) := by
  match pre, post with
  | [], [] =>
    have hkind : (k.text?.bind fun name => Json.named? AttributeValue.alternatives name) =
        k'.text?.bind fun name => Json.named? AttributeValue.alternatives name := by
      obtain rfl | ⟨names, hk, hk'⟩ := hk
      · rfl
      · obtain ⟨x, hx, hname⟩ := Option.bind_eq_some_iff.1 hk
        obtain ⟨y, hy, hname'⟩ := Option.bind_eq_some_iff.1 hk'
        rw [hx, hy]
        exact AttributeValue.named?_eq hname hname'
    change (k.text?.bind fun name => _) = k'.text?.bind fun name => _
    rw [← Option.bind_assoc, ← Option.bind_assoc, hkind]
    refine Option.bind_congr fun a ha => ?_
    obtain ⟨name, -, ha⟩ := Option.bind_eq_some_iff.1 ha
    exact (AttributeValue.shallow_content (List.mem_of_find?_eq_some ha)).on_eq ht
  | [], _ :: _ => rfl
  | [_], _ => rfl
  | _ :: _ :: _, _ => rfl

/-! ### Attributes -/

theorem Attributes.insert_comm (a : Attributes) {x y : String} (hne : x ≠ y)
    (v w : AttributeValue) : (a.insert x v).insert y w = (a.insert y w).insert x v := by
  refine Attributes.ext_get? fun name => ?_
  simp only [Attributes.get?_insert]
  by_cases hx : x = name <;> by_cases hy : y = name
  · exact absurd (hx.trans hy.symm) hne
  all_goals simp [hx, hy]

theorem attributes_nameOf? (k : Spelling) : Level.attributes.nameOf? k = k.text?.map ([·]) := by
  rw [Level.nameOf?]
  cases k.text? <;> rfl

theorem attributes_perm {ms ms' : List (Spelling × Tree)} (h : ms.Perm ms')
    (apart : Level.attributes.Apart ms) : Level.attributes.Same (.object ms) (.object ms') := by
  have hswaps : ms.Pairwise (Json.Swaps attributeMembers.put) := by
    refine (List.pairwise_filterMap.1 (apart trivial)).imp ?_
    intro a b hab x
    simp only [attributeMembers_put, attributes_nameOf?] at hab ⊢
    cases ha : a.1.text? with
    | none => simp
    | some name =>
      cases hb : b.1.text? with
      | none => simp
      | some name' =>
        have hne : name ≠ name' := by simpa [ha, hb] using hab
        cases AttributeValue.reader.on a.2 with
        | none => simp
        | some v =>
          cases AttributeValue.reader.on b.2 with
          | none => simp
          | some w => simp [Attributes.insert_comm x hne]
  change (attributeMembers.on .empty ms).bind _ = (attributeMembers.on .empty ms').bind _
  rw [Json.Members.on_perm h hswaps]

theorem attributes_member {k k' : Spelling} {t t' : Tree} (hk : Level.attributes.SameKey k k')
    (ht : Level.attributeValue.Same t t') (pre post : List (Spelling × Tree)) :
    Level.attributes.Same (.object (pre ++ (k, t) :: post))
      (.object (pre ++ (k', t') :: post)) := by
  have hput (x : Attributes) : attributeMembers.put x (k, t) = attributeMembers.put x (k', t') := by
    have hkey : k.text? = k'.text? := by
      have hname := hk.nameOf?_eq
      rw [attributes_nameOf?, attributes_nameOf?] at hname
      exact Option.map_injective (fun _ _ h => List.singleton_inj.1 h) hname
    have hvalue : AttributeValue.reader.on t = AttributeValue.reader.on t' := by
      rw [means_attributeValue.on_eq, means_attributeValue.on_eq]
      exact ht
    rw [attributeMembers_put, attributeMembers_put, hkey, hvalue]
  change (attributeMembers.on .empty _).bind _ = (attributeMembers.on .empty _).bind _
  rw [Json.Members.on_congr hput]

/-! ### Events and batches -/

theorem event_independent : Event.record.Independent := by
  intro f hf g hg hne t u set set' hset hset' x
  simp only [Event.record, List.mem_cons, List.not_mem_nil, or_false] at hf hg
  rcases hf with rfl | rfl | rfl | rfl | rfl | rfl <;>
    simp only [Field.needed, Field.defaulted, Field.alsoNamed, Json.Reader.on_map,
      Option.map_eq_some_iff] at hset <;>
    obtain ⟨v, -, rfl⟩ := hset <;>
    rcases hg with rfl | rfl | rfl | rfl | rfl | rfl <;>
    simp only [Field.needed, Field.defaulted, Field.alsoNamed, Json.Reader.on_map,
      Option.map_eq_some_iff] at hset' <;>
    obtain ⟨w, -, rfl⟩ := hset' <;>
    first | rfl | exact absurd rfl hne

theorem batch_independent : Body.Batch.record.Independent := by
  intro f hf g hg hne
  obtain rfl := Body.eq_of_mem_fields hf
  obtain rfl := Body.eq_of_mem_fields hg
  exact absurd rfl hne

theorem event_member {k k' : Spelling} {t t' : Tree} (hk : Level.event.SameKey k k')
    (ht : (Level.event.under k).Same t t') (pre post : List (Spelling × Tree)) :
    Level.event.Same (.object (pre ++ (k, t) :: post)) (.object (pre ++ (k', t') :: post)) := by
  refine Record.on_congr (hk.field?_eq event_fits rfl) (fun f hf => ?_) pre post
  have hname : Level.event.nameOf? k = some f.names := event_fits.named?_of_fieldOf? hf
  obtain ⟨key, -, hf⟩ := Option.bind_eq_some_iff.1 hf
  have hmem := List.mem_of_find?_eq_some hf
  rw [Level.under, hname] at ht
  simp only [Event.record, List.mem_cons, List.not_mem_nil, or_false] at hmem
  rcases hmem with rfl | rfl | rfl | rfl | rfl | rfl <;>
    simp only [Field.names, Field.needed, Field.defaulted, Field.alsoNamed] at ht ⊢
  · exact (Json.Reader.shallow_string.map _).on_eq ht
  · exact (Json.Reader.shallow_string.map _).on_eq ht
  · exact (Json.Reader.shallow_string.map _).on_eq ht
  · exact (Json.Reader.shallow_string.map _).on_eq ht
  · have hattributes : Level.attributes.Same t t' := ht
    rw [Json.Reader.on_map, Json.Reader.on_map, means_attributes.on_eq, means_attributes.on_eq]
    exact congrArg _ hattributes
  · have hshallow : Json.Reader.string.orNull.Shallow :=
      (Json.means_stringAs _).orNull.shallow fun t => by cases t <;> rfl
    exact (hshallow.map _).on_eq ht

theorem batch_member {k k' : Spelling} {t t' : Tree} (hk : Level.batch.SameKey k k')
    (ht : (Level.batch.under k).Same t t') (pre post : List (Spelling × Tree)) :
    Level.batch.Same (.object (pre ++ (k, t) :: post)) (.object (pre ++ (k', t') :: post)) := by
  refine Record.on_congr (hk.field?_eq Body.batch_fits rfl) (fun f hf => ?_) pre post
  have hname : Level.batch.nameOf? k = some f.names := Body.batch_fits.named?_of_fieldOf? hf
  obtain ⟨key, -, hf⟩ := Option.bind_eq_some_iff.1 hf
  have hmem := List.mem_of_find?_eq_some hf
  rw [Level.under, hname] at ht
  obtain rfl := Body.eq_of_mem_fields hmem
  have hevents : Level.events.Same t t' := ht
  simp only [Field.defaulted, Json.Reader.on_map, means_event.list.on_eq]
  exact congrArg _ hevents

theorem events_item {t t' : Tree} (ht : Level.event.Same t t') (pre post : List Tree) :
    Level.events.Same (.list (pre ++ t :: post)) (.list (pre ++ t' :: post)) := by
  have ht : Event.record.on t = Event.record.on t' := ht
  change (pre ++ t :: post).mapM Event.record.on = (pre ++ t' :: post).mapM Event.record.on
  rw [List.mapM_append, List.mapM_append, List.mapM_cons, List.mapM_cons, ht]

/-- Values that are alike mean the same. -/
theorem Alike.same {l : Level} {t t' : Tree} (h : Alike l t t') (ht : Proper l t) :
    l.Same t t' := by
  induction h with
  | refl => exact .refl _ _
  | trans h _ ih ih' =>
    -- A change leaves the value proper, so the next one keeps the meaning too.
    exact (ih ht).trans (ih' (h.proper ht))
  | @order l ms ms' hperm =>
    have apart := ht.apart
    cases l with
    | batch => exact Body.batch_fits.on_perm batch_independent hperm (apart trivial)
    | event => exact event_fits.on_perm event_independent hperm (apart trivial)
    | attributes => exact attributes_perm hperm apart
    | attributeValue => exact attributeValue_perm hperm
    | events => rfl
    | other => rfl
  | @member l k k' t t' pre post hk _ ih =>
    have hsame := ih (ht.members (k, t) (by simp))
    cases l with
    | batch => exact batch_member hk hsame pre post
    | event => exact event_member hk hsame pre post
    | attributes => exact attributes_member hk hsame pre post
    | attributeValue => exact attributeValue_member hk hsame pre post
    | events => rfl
    | other => rfl
  | @item l l' t t' pre post hl _ ih =>
    have hsame := ih (ht.items hl t (by simp))
    cases l with
    | batch => cases hl
    | event => cases hl
    | events =>
      cases hl
      exact events_item hsame pre post
    | attributes => rfl
    | attributeValue => rfl
    | other => rfl

/-! ## Bodies -/

/-- Both bodies are accepted with the same events, or neither is; and so nothing that is done with
the events tells the bodies apart. -/
structure Indistinct (outcome outcome' : Except Fault (List Event)) : Prop where
  accepted (events : List Event) : outcome = .ok events ↔ outcome' = .ok events
  /-- The deny-list decides the same, with the same match. -/
  decided {events events' : List Event} (h : outcome = .ok events) (h' : outcome' = .ok events')
    (rules : DenyList) : rules.filter events = rules.filter events'
  /-- With the same stamp the same records are written. -/
  recorded {events events' : List Event} (h : outcome = .ok events) (h' : outcome' = .ok events')
    (who : Principal) (now made : Timestamp) (origin : Origin) :
    events.map (fun e => Broker.Record.ofEvent (Gateway.stamp who now e) origin made) =
      events'.map fun e => Broker.Record.ofEvent (Gateway.stamp who now e) origin made

theorem Indistinct.of_accepted {outcome outcome' : Except Fault (List Event)}
    (h : ∀ events, outcome = .ok events ↔ outcome' = .ok events) : Indistinct outcome outcome' where
  accepted := h
  decided hok hok' rules := by
    cases hok'.symm.trans ((h _).1 hok)
    rfl
  recorded hok hok' who now made origin := by
    cases hok'.symm.trans ((h _).1 hok)
    rfl

/-- Texts of alike values are read as the same value. -/
theorem decode_alike {α : Type} {r : Reader α} {f : Tree → Option α} (hr : Means r f)
    {body body' : List UInt8} {t t' : Tree} (ht : Document body t) (ht' : Document body' t')
    (h : f t = f t') (a : α) : r.decode body = .ok a ↔ r.decode body' = .ok a := by
  rw [← Json.toOption_eq_some, ← Json.toOption_eq_some, hr.decode ht, hr.decode ht', h]

/-- The presentation of an event, and of the events of a batch, does not matter. -/
theorem presentation_irrelevant {body body' : List UInt8} {t t' : Tree} (ht : Document body t)
    (ht' : Document body' t') :
    (Alike .event t t' → Proper .event t →
      Indistinct ((Body.event body).map ([·])) ((Body.event body').map ([·]))) ∧
    (Alike .batch t t' → Proper .batch t → Indistinct (Body.batch body) (Body.batch body')) := by
  constructor
  · intro h hproper
    refine .of_accepted fun events => ?_
    have hevent (e : Event) : Body.event body = .ok e ↔ Body.event body' = .ok e := by
      rw [Body.event_eq_ok, Body.event_eq_ok, decode_alike means_event ht ht' (h.same hproper)]
    have hmap (b : List UInt8) : (Body.event b).map ([·]) = .ok events ↔
        ∃ e, Body.event b = .ok e ∧ [e] = events := by
      cases Body.event b <;> simp [Except.map]
    simp only [hmap, hevent]
  · intro h hproper
    refine .of_accepted fun events => ?_
    rw [Body.batch_eq_ok, Body.batch_eq_ok, decode_alike means_batch ht ht' (h.same hproper)]

/-! ### One event in two presentations -/

theorem Level.nameOf?_plain (l : Level) (name : String) (h) :
    l.nameOf? (.plain name h) = l.named? name := by
  rw [nameOf?, Spelling.text?_plain, Option.bind_some]

def idMember : Spelling × Tree := (.plain "id" (by decide), .string (.plain "e1" (by decide)))

def versionMember (k : Spelling) : Spelling × Tree := (k, .string (.plain "1.0" (by decide)))

/-- One attribute of some kind. -/
def attributesMember (kind : Spelling) : Spelling × Tree :=
  (.plain "attributes" (by decide),
    .object [(.plain "lang" (by decide), .object [(kind, .string (.plain "en" (by decide)))])])

def camelEvent : Tree :=
  .object [idMember, versionMember (.plain "specVersion" (by decide)),
    attributesMember (.plain "ceString" (by decide))]

def snakeEvent : Tree :=
  .object [attributesMember (.plain "ce_string" (by decide)),
    versionMember (.plain "spec_version" (by decide)), idMember]

theorem under_attributesMember (kind : Spelling) :
    Level.event.under (attributesMember kind).1 = .attributes := by
  rw [Level.under, attributesMember, Level.nameOf?_plain]
  rfl

theorem camelEvent_on : Event.record.on camelEvent =
    some ⟨"e1", "1.0", "", "", Attributes.empty.insert "lang" (.string "en"), none⟩ := by
  have hstring (x : String) (h) : Reader.string.on (.string (.plain x h)) = some x := by
    rw [Reader.string, (Json.means_stringAs _).on_eq]
    exact Spelling.text?_plain x h
  have hkind : Json.named? AttributeValue.alternatives "ceString" =
      some (AttributeValue.alternative "ceString" "ce_string" .string .string) := rfl
  have hvalue : AttributeValue.reader.on
      (.object [(.plain "ceString" (by decide), .string (.plain "en" (by decide)))]) =
        some (.string "en") := by
    rw [means_attributeValue.on_eq, Json.taggedOn, Spelling.text?_plain, Option.bind_some, hkind,
      Option.bind_some, AttributeValue.alternative, Reader.on_map, hstring]
    rfl
  have hattributes : Attributes.reader.on (attributesMember (.plain "ceString" (by decide))).2 =
      some (Attributes.empty.insert "lang" (.string "en")) := by
    rw [means_attributes.on_eq, attributesMember, Json.membersOn, Json.Members.on_cons,
      attributeMembers_put, Spelling.text?_plain, hvalue]
    rfl
  rw [camelEvent, Record.on, idMember, versionMember,
    Record.asObject_on_field (Record.fieldOf?_plain _ "id" (by decide)) List.not_mem_nil
      (by rw [Field.needed, Reader.on_map, hstring]; rfl),
    Record.asObject_on_field (Record.fieldOf?_plain _ "specVersion" (by decide)) (by decide)
      (by rw [Field.defaulted, Field.alsoNamed, Reader.on_map, hstring]; rfl),
    Record.asObject_on_field (Record.fieldOf?_plain _ "attributes" (by decide)) (by decide)
      (by rw [Field.defaulted, Reader.on_map, hattributes]; rfl)]
  rfl

theorem camelEvent_accepted : Body.event camelEvent.text =
    .ok ⟨"e1", "1.0", "", "", Attributes.empty.insert "lang" (.string "en"), none⟩ :=
  Body.event_eq_ok.2 ⟨means_event.decode_eq_ok.2 ⟨_, camelEvent.document_text, camelEvent_on⟩,
    by decide⟩

theorem camel_alike_snake : Alike .event camelEvent snakeEvent := by
  have hversion : Level.event.SameKey (.plain "specVersion" (by decide))
      (.plain "spec_version" (by decide)) :=
    .inr ⟨["specVersion", "spec_version"], Level.nameOf?_plain _ _ _, Level.nameOf?_plain _ _ _⟩
  have hkind : Level.attributeValue.SameKey (.plain "ceString" (by decide))
      (.plain "ce_string" (by decide)) :=
    .inr ⟨["ceString", "ce_string"], Level.nameOf?_plain _ _ _, Level.nameOf?_plain _ _ _⟩
  have hattributes : Alike .attributes (attributesMember (.plain "ceString" (by decide))).2
      (attributesMember (.plain "ce_string" (by decide))).2 :=
    .member (p := []) (.inl rfl) (.member (p := []) hkind .refl)
  rw [← under_attributesMember (.plain "ceString" (by decide))] at hattributes
  have hrespelled : Alike .event camelEvent
      (.object [idMember, versionMember (.plain "spec_version" (by decide)),
        attributesMember (.plain "ce_string" (by decide))]) :=
    .trans (.member (p := [idMember]) hversion .refl)
      (.member (p := [idMember, _]) (.inl rfl) hattributes)
  exact hrespelled.trans (.order (List.reverse_perm _).symm)

theorem camel_proper : Proper .event camelEvent := by
  have htext {l : Level} {x : Spelling} : Proper l (.string x) := .plain nofun nofun
  have hvalue : Proper .attributeValue
      (.object [(.plain "ceString" (by decide), .string (.plain "en" (by decide)))]) :=
    .object False.elim (List.forall_mem_singleton.2 htext)
  have hattributes : Proper .attributes (attributesMember (.plain "ceString" (by decide))).2 :=
    .object (fun _ => by simp [Level.nameOf?_plain, Level.named?])
      (List.forall_mem_singleton.2 hvalue)
  refine .object (fun _ => ?_) ?_
  · have hnames : [idMember, versionMember (.plain "specVersion" (by decide)),
        attributesMember (.plain "ceString" (by decide))].filterMap
          (fun m => Level.event.nameOf? m.1) =
        [["id"], ["specVersion", "spec_version"], ["attributes"]] := by
      simp only [idMember, versionMember, attributesMember, List.filterMap_cons,
        Level.nameOf?_plain]
      rfl
    rw [hnames]
    decide
  · refine List.forall_mem_cons.2 ⟨htext, List.forall_mem_cons.2 ⟨htext, ?_⟩⟩
    rw [← under_attributesMember (.plain "ceString" (by decide))] at hattributes
    exact List.forall_mem_singleton.2 hattributes

def batchOfOne (t : Tree) : Tree := .object [(Body.eventsKey, .list [t])]

theorem under_eventsKey : Level.batch.under Body.eventsKey = .events := by
  rw [Level.under, Body.eventsKey, Level.nameOf?_plain]
  rfl

theorem batchOfOne_alike {t t' : Tree} (h : Alike .event t t') :
    Alike .batch (batchOfOne t) (batchOfOne t') := by
  have hlist : Alike .events (.list [t]) (.list [t']) := .item (p := []) rfl h
  rw [← under_eventsKey] at hlist
  exact .member (p := []) (.inl rfl) hlist

theorem batchOfOne_proper {t : Tree} (h : Proper .event t) : Proper .batch (batchOfOne t) := by
  have hlist : Proper .events (.list [t]) := .list rfl (List.forall_mem_singleton.2 h)
  rw [← under_eventsKey] at hlist
  refine .object (fun _ => ?_) (List.forall_mem_singleton.2 hlist)
  simp [Body.eventsKey, Level.nameOf?_plain, Level.named?, Json.Layout.named?, Body.batchLayout]

/-- Blanks around a text do not matter. -/
theorem document_around {body before after : List UInt8} {t : Tree} (h : Document body t)
    (hbefore : Json.Blanks before) (hafter : Json.Blanks after) :
    Document (before ++ (body ++ after)) t := by
  obtain ⟨u, hs, hu⟩ := h
  refine ⟨u ++ after, ?_, List.forall_mem_append.2 ⟨hu, hafter⟩⟩
  have hbody := hs.append_right after
  cases t <;> exact hbody.after_blanks hbefore

/-- An event in two presentations, on its own and in a batch. -/
theorem presentation_irrelevant_respelled :
    ((∃ e, Body.event camelEvent.text = .ok e) ∧ Document camelEvent.text camelEvent ∧
      Document ([0x20] ++ (snakeEvent.text ++ [0x0A])) snakeEvent ∧
      Alike .event camelEvent snakeEvent ∧ Proper .event camelEvent ∧
      Indistinct ((Body.event camelEvent.text).map ([·]))
        ((Body.event ([0x20] ++ (snakeEvent.text ++ [0x0A]))).map ([·]))) ∧
    Alike .batch (batchOfOne camelEvent) (batchOfOne snakeEvent) ∧
      Proper .batch (batchOfOne camelEvent) ∧
      Indistinct (Body.batch (batchOfOne camelEvent).text)
        (Body.batch (batchOfOne snakeEvent).text) := by
  have hcamel := camelEvent.document_text
  have hsnake : Document ([0x20] ++ (snakeEvent.text ++ [0x0A])) snakeEvent :=
    document_around snakeEvent.document_text (by simp [Json.Blanks, Json.isBlank])
      (by simp [Json.Blanks, Json.isBlank])
  have halike := batchOfOne_alike camel_alike_snake
  have hproper := batchOfOne_proper camel_proper
  exact ⟨⟨⟨_, camelEvent_accepted⟩, hcamel, hsnake, camel_alike_snake, camel_proper,
    (presentation_irrelevant hcamel hsnake).1 camel_alike_snake camel_proper⟩, halike, hproper,
    (presentation_irrelevant (batchOfOne camelEvent).document_text
      (batchOfOne snakeEvent).document_text).2 halike hproper⟩

end Sluice
