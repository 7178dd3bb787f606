import Mathlib.Data.List.Forall2
import Sluice.Proofs.Json.Skip

/-!
# What a reader makes of a tree

`Means r f` says that the reader `r` is the function `f` of trees: whatever the spelling, `r` makes
of a value what `f` makes of its tree, and reads nothing but values.  So a text is read as some
value exactly if it has a tree that `f` makes this value of (`Means.decode_eq_ok`).

There is one lemma for each way to put readers together; those of objects have a module of their
own.  A list is read item by item (`elements_spelled`).  Why a value is refused is not told apart
here, so what a reader makes of a tree is an `Option`.
-/

namespace Sluice.Json

variable {α β σ : Type}

/-! ## Readers as functions of trees -/

/-- What a reader makes of a value without blanks. -/
def Reader.on (r : Reader α) (t : Tree) : Option α := (r.read t.text).toOption.map (·.1)

theorem toOption_eq_some {ε : Type} {x : Except ε α} {a : α} :
    x.toOption = some a ↔ x = .ok a := by
  cases x <;> simp [Except.toOption]

/-- An outcome that is told by an option, but for what is left. -/
theorem taken_or_failed {x : Outcome α} {o : Option α} {u : List UInt8}
    (h : x.toOption = o.map (·, u)) :
    (∃ a, o = some a ∧ x = .ok (a, u)) ∨ o = none ∧ ∃ e, x = .error e := by
  cases x with
  | error e =>
    cases o with
    | none => exact .inr ⟨rfl, e, rfl⟩
    | some a => cases h
  | ok p =>
    cases o with
    | none => cases h
    | some a =>
      cases h
      exact .inl ⟨a, rfl, rfl⟩

/-- The reader is this function of trees. -/
structure Means (r : Reader α) (f : Tree → Option α) : Prop where
  /-- What is read of a value hangs on its tree. -/
  spelled {t : Tree} {s u : List UInt8} (hs : Spells t.tokens s u) (hu : Stops u) :
    (r.read s).toOption = (f t).map (·, u)
  /-- Nothing but a value is read. -/
  sound {s u : List UInt8} {a : α} (h : r.read s = .ok (a, u)) : ∃ t : Tree, Spells t.tokens s u

@[simp] theorem Reader.on_map (r : Reader α) (g : α → β) (t : Tree) :
    (r.map g).on t = (r.on t).map g := by
  simp only [Reader.on, Reader.map]
  cases r.read t.text <;> rfl

theorem stops_of_blanks {u : List UInt8} (h : Blanks u) : Stops u := by
  rw [Stops, skipBlank_eq_nil.2 h]
  exact closes_nil

namespace Means

variable {r : Reader α} {f : Tree → Option α} {text : List UInt8} {t : Tree} {a : α}

theorem on_eq (h : Means r f) (t : Tree) : r.on t = f t := by
  obtain ⟨u, hs, hu⟩ := t.document_text
  rw [Reader.on, h.spelled hs (stops_of_blanks hu)]
  cases f t <;> rfl

theorem on (h : Means r f) : Means r r.on := by
  have hf : r.on = f := funext h.on_eq
  rwa [hf]

/-- A reader either takes a value off the front or fails, and its tree tells which. -/
theorem read_or_fail (h : Means r f) {s u : List UInt8} (hs : Spells t.tokens s u) (hu : Stops u) :
    (∃ a, f t = some a ∧ r.read s = .ok (a, u)) ∨ f t = none ∧ ∃ e, r.read s = .error e :=
  taken_or_failed (h.spelled hs hu)

theorem decode (h : Means r f) (ht : Document text t) : (r.decode text).toOption = f t := by
  obtain ⟨u, hs, hu⟩ := ht
  have hend := skipBlank_eq_nil.2 hu
  rw [Reader.decode]
  rcases h.read_or_fail hs (stops_of_blanks hu) with ⟨a, hf, hr⟩ | ⟨hf, e, hr⟩
  · simp only [hf, hr, hend]
    rfl
  · simp only [hf, hr]
    rfl

/-- A text is read as a value exactly if it has a tree that the value is made of. -/
theorem decode_eq_ok (h : Means r f) :
    r.decode text = .ok a ↔ ∃ t, Document text t ∧ f t = some a := by
  constructor
  · intro hdecode
    have hread : ∃ u, r.read text = .ok (a, u) ∧ skipBlank u = [] := by
      unfold Reader.decode at hdecode
      split at hdecode
      · cases hdecode
      · rename_i u hu
        split at hdecode
        · rename_i hend
          cases hdecode
          exact ⟨u, hu, hend⟩
        · cases hdecode
    obtain ⟨u, hu, hend⟩ := hread
    obtain ⟨t, ht⟩ := h.sound hu
    have hd : Document text t := ⟨u, ht, skipBlank_eq_nil.1 hend⟩
    refine ⟨t, hd, ?_⟩
    rw [← h.decode hd, hdecode]
    rfl
  · rintro ⟨t, ht, hf⟩
    have hdecode := h.decode ht
    rw [hf] at hdecode
    cases hd : r.decode text with
    | error e => rw [hd] at hdecode; cases hdecode
    | ok b =>
      rw [hd] at hdecode
      cases hdecode
      rfl

/-! ## Changing what is read -/

theorem map (h : Means r f) (g : α → β) : Means (r.map g) fun t => (f t).map g where
  spelled hs hu := by
    rw [Reader.map]
    rcases h.read_or_fail hs hu with ⟨a, hf, hr⟩ | ⟨hf, e, hr⟩
    · simp only [hf, hr]
      rfl
    · simp only [hf, hr]
      rfl
  sound h' := by
    simp only [Reader.map] at h'
    split at h'
    · rename_i hr
      cases h'
      exact h.sound hr
    · cases h'

theorem accept (h : Means r f) (g : α → Except Cause β) :
    Means (r.accept g) fun t => (f t).bind fun a => (g a).toOption where
  spelled hs hu := by
    rw [Reader.accept]
    rcases h.read_or_fail hs hu with ⟨a, hf, hr⟩ | ⟨hf, e, hr⟩
    · simp only [hf, hr, Option.bind_some]
      cases g a <;> rfl
    · simp only [hf, hr]
      rfl
  sound h' := by
    simp only [Reader.accept] at h'
    split at h'
    · rename_i hr
      split at h'
      · cases h'
        exact h.sound hr
      · cases h'
    · cases h'

/-- Where a refusal is placed does not matter. -/
theorem acceptWithin (h : Means r f) (g : α → Except Cause β) :
    Means (r.acceptWithin g) fun t => (f t).bind fun a => (g a).toOption where
  spelled {t s u} hs hu := by
    rw [← (h.accept g).spelled hs hu, Reader.accept, Reader.acceptWithin]
    dsimp only
    split
    · split <;> rfl
    · rfl
  sound h' := by
    simp only [Reader.acceptWithin] at h'
    split at h'
    · rename_i hr
      split at h'
      · cases h'
        exact h.sound hr
      · cases h'
    · cases h'

end Means

/-! ## Plain values -/

/-- What kind of value a value is. -/
inductive Kind where
  | null
  | true
  | false
  | number
  | string
  | list
  | object
deriving DecidableEq

/-- The kind of value that begins with a byte. -/
def kindAt? (b : UInt8) : Option Kind :=
  if b = 0x6E then some .null
  else if b = 0x74 then some .true
  else if b = 0x66 then some .false
  else if b = 0x2D then some .number
  else if isDigit b then some .number
  else if b = 0x22 then some .string
  else if b = 0x5B then some .list
  else if b = 0x7B then some .object
  else none

def Tree.kind : Tree → Kind
  | .null => .null
  | .boolean Bool.true => .true
  | .boolean Bool.false => .false
  | .number _ => .number
  | .string _ => .string
  | .list _ => .list
  | .object _ => .object

theorem kindAt?_digit {b : UInt8} (hb : isDigit b = Bool.true) : kindAt? b = some .number := by
  have hne (c : UInt8) (hc : isDigit c = Bool.false) : b ≠ c := by
    rintro rfl
    rw [hb] at hc
    cases hc
  rw [kindAt?, if_neg (hne _ rfl), if_neg (hne _ rfl), if_neg (hne _ rfl), if_neg (hne _ rfl),
    if_pos hb]

/-- The first byte of a value tells its kind. -/
theorem Spells.first {t : Tree} {s u : List UInt8} (h : Spells t.tokens s u) :
    ∃ b v, skipBlank s = b :: v ∧ kindAt? b = some t.kind := by
  cases t with
  | null =>
    obtain ⟨v, hv, -⟩ := h.skipBlank_eq
    exact ⟨_, _, hv, rfl⟩
  | boolean x =>
    obtain ⟨v, hv, -⟩ := h.skipBlank_eq
    cases x <;> exact ⟨_, _, hv, rfl⟩
  | number n =>
    obtain ⟨v, hv, -⟩ := h.skipBlank_eq
    rw [Token.bytes, Numeral.bytes] at hv
    split at hv
    · exact ⟨_, _, hv, rfl⟩
    · obtain ⟨b, x, hx, hb⟩ := n.unsigned_cons
      rw [hx, List.cons_append] at hv
      exact ⟨_, _, hv, kindAt?_digit hb⟩
  | string x =>
    obtain ⟨v, hv, -⟩ := h.skipBlank_eq
    exact ⟨_, _, hv, rfl⟩
  | list items =>
    obtain ⟨v, hv, -⟩ := h.skipBlank_eq
    exact ⟨_, _, hv, rfl⟩
  | object members =>
    obtain ⟨v, hv, -⟩ := h.skipBlank_eq
    exact ⟨_, _, hv, rfl⟩

theorem read_atByte_of {f : UInt8 → List UInt8 → Outcome α} {hf} {s v : List UInt8} {b : UInt8}
    (hs : skipBlank s = b :: v) : (Reader.atByte f hf).read s = f b v := by
  change atFirst f s = f b v
  rw [atFirst, hs]

theorem atByte_ok {f : UInt8 → List UInt8 → Outcome α} {hf} {s : List UInt8} {p : α × List UInt8}
    (h : (Reader.atByte f hf).read s = .ok p) : ∃ b v, skipBlank s = b :: v ∧ f b v = .ok p := by
  change atFirst f s = .ok p at h
  unfold atFirst at h
  split at h
  · cases h
  · rename_i b v hs
    exact ⟨b, v, hs, h⟩

/-- The text of a string. -/
def Tree.text? : Tree → Option String
  | .string x => x.text?
  | _ => none

theorem means_stringAs (expected : String) : Means (.stringAs expected) Tree.text? where
  spelled {t s u} hs _ := by
    obtain ⟨b, v, hv, hkind⟩ := hs.first
    rw [Reader.stringAs, read_atByte_of hv]
    cases t with
    | string x =>
      obtain ⟨w, hw, hend⟩ := hs.skipBlank_eq
      obtain rfl := spells_nil.1 hend
      rw [Token.bytes, List.cons_append, List.append_assoc, List.singleton_append, hv] at hw
      obtain ⟨rfl, rfl⟩ := List.cons_eq_cons.1 hw
      rw [if_pos rfl, string_spelled]
      rfl
    | boolean x =>
      rw [if_neg (by rintro rfl; cases x <;> cases hkind)]
      rfl
    | _ =>
      rw [if_neg (by rintro rfl; cases hkind)]
      rfl
  sound {s u a} h := by
    obtain ⟨b, v, hv, h⟩ := atByte_ok h
    split at h
    · rename_i hb
      obtain ⟨x, rfl, -⟩ := string_sound h
      refine ⟨.string x, .of_front _ ?_ .nil⟩
      rw [hv, hb, Token.bytes, List.cons_append, List.append_assoc, List.singleton_append]
    · cases h

def Tree.boolean? : Tree → Option Bool
  | .boolean b => some b
  | _ => none

theorem means_boolean : Means .boolean Tree.boolean? where
  spelled {t s u} hs _ := by
    obtain ⟨b, v, hv, hkind⟩ := hs.first
    rw [Reader.boolean, read_atByte_of hv]
    cases t with
    | boolean x =>
      obtain ⟨w, hw, hend⟩ := hs.skipBlank_eq
      obtain rfl := spells_nil.1 hend
      cases x with
      | true =>
        have hword : skipBlank s = 0x74 :: ([0x72, 0x75, 0x65] ++ w) := hw
        obtain ⟨rfl, rfl⟩ := List.cons_eq_cons.1 (hv.symm.trans hword)
        rw [if_pos rfl, word_append [0x72, 0x75, 0x65]]
        rfl
      | false =>
        have hword : skipBlank s = 0x66 :: ([0x61, 0x6C, 0x73, 0x65] ++ w) := hw
        obtain ⟨rfl, rfl⟩ := List.cons_eq_cons.1 (hv.symm.trans hword)
        rw [if_neg (by decide), if_pos rfl, word_append [0x61, 0x6C, 0x73, 0x65]]
        rfl
    | _ =>
      rw [if_neg (by rintro rfl; cases hkind), if_neg (by rintro rfl; cases hkind)]
      rfl
  sound {s u a} h := by
    obtain ⟨b, v, hv, h⟩ := atByte_ok h
    split at h
    · rename_i hb
      obtain ⟨w, hw, hp⟩ := map_eq_ok h
      cases hp
      refine ⟨.boolean true, .of_front _ ?_ .nil⟩
      rw [hv, hb, word_sound hw]
      rfl
    split at h
    · rename_i hb
      obtain ⟨w, hw, hp⟩ := map_eq_ok h
      cases hp
      refine ⟨.boolean false, .of_front _ ?_ .nil⟩
      rw [hv, hb, word_sound hw]
      rfl
    · cases h

/-- The number of a number, unless it is too large. -/
def Tree.number? : Tree → Option Number
  | .number n => n.value?
  | _ => none

/-- The sign of a number, or its first digit, tells how to go on. -/
theorem numberAt_spelled (n : Numeral) {b : UInt8} {s v : List UInt8} (hs : Quiet s)
    (hv : b :: v = n.bytes ++ s) (expected : String) :
    (numberAt expected b v).toOption = n.value?.map (·, s) := by
  have hnumber := number_spelled n hs
  rw [Numeral.bytes] at hv
  cases hnegative : n.negative with
  | true =>
    rw [hnegative] at hnumber hv
    obtain ⟨rfl, rfl⟩ := List.cons_eq_cons.1 hv
    rw [numberAt, if_pos rfl]
    exact hnumber
  | false =>
    rw [hnegative] at hnumber hv
    obtain ⟨c, x, hx, hc⟩ := n.unsigned_cons
    have hhead : b = c := by
      rw [if_neg (by decide), hx] at hv
      exact (List.cons_eq_cons.1 hv).1
    have hminus : b ≠ 0x2D := by
      rintro rfl
      rw [← hhead] at hc
      cases hc
    rw [numberAt, if_neg hminus, if_pos (hhead ▸ hc), hv]
    exact hnumber

theorem means_number (expected : String) :
    Means (.atByte (numberAt expected) numberAt_length) Tree.number? where
  spelled {t s u} hs hu := by
    obtain ⟨b, v, hv, hkind⟩ := hs.first
    rw [read_atByte_of hv]
    have hrefused (h : kindAt? b ≠ some .number) : (numberAt expected b v).toOption = none := by
      rw [numberAt, if_neg, if_neg]
      · rfl
      · exact fun hb => h (kindAt?_digit hb)
      · rintro rfl
        exact h rfl
    cases t with
    | number n =>
      obtain ⟨w, hw, hend⟩ := hs.skipBlank_eq
      obtain rfl := spells_nil.1 hend
      exact numberAt_spelled n hu.quiet (hv ▸ hw) expected
    | boolean x => exact hrefused (by cases x <;> simp [hkind, Tree.kind])
    | _ => exact hrefused (by simp [hkind, Tree.kind])
  sound {s u a} h := by
    obtain ⟨b, v, hv, h⟩ := atByte_ok h
    unfold numberAt at h
    split at h
    · rename_i hb
      obtain ⟨n, hn, rfl⟩ := number_sound true h
      refine ⟨.number n, .of_front _ ?_ .nil⟩
      rw [hv, hb, Token.bytes, Numeral.bytes, if_pos hn, List.cons_append]
    split at h
    · obtain ⟨n, hn, hs⟩ := number_sound false h
      refine ⟨.number n, .of_front _ ?_ .nil⟩
      rw [hv, hs, Token.bytes, Numeral.bytes, if_neg (by simp [hn])]
    · cases h

/-- The whole number of a number, if it is one within a range. -/
def wholeOn (least most : Int) (t : Tree) : Option Int :=
  t.number?.bind fun
    | .whole n => if least ≤ n ∧ n ≤ most then some n else none
    | .fraction _ => none

theorem means_whole (least most : Int) (expected : String) :
    Means (.whole least most expected) (wholeOn least most) := by
  have hf : wholeOn least most = fun t => t.number?.bind fun n =>
      (match n with
        | .whole n =>
          if least ≤ n ∧ n ≤ most then .ok n else .error (.outOfRange (.integer n) expected)
        | .fraction t =>
          .error (.typeMismatch (.fraction t) expected) : Except Cause Int).toOption := by
    funext t
    rw [wholeOn]
    congr 1
    funext n
    cases n with
    | whole n =>
      dsimp only
      split <;> rfl
    | fraction t => rfl
  rw [hf]
  exact (means_number expected).accept _

/-- A number that is spelled by its digits alone, within a range; the negative of zero is none. -/
structure Numeral.IsWhole (n : Numeral) (least most : Int) : Prop where
  places : n.places = []
  power : n.power = []
  least_le : least ≤ n.signed
  le_most : n.signed ≤ most
  not_zero : n.negative = true → n.signed ≠ 0

theorem wholeOn_eq_some_iff {least most k : Int} (hleast : -9223372036854775808 ≤ least)
    (hmost : most ≤ wholeLimit) {t : Tree} :
    wholeOn least most t = some k ↔ ∃ n, t = .number n ∧ n.IsWhole least most ∧ n.signed = k := by
  constructor
  · intro h
    obtain ⟨v, hv, h⟩ := Option.bind_eq_some_iff.1 h
    cases v with
    | fraction text => cases h
    | whole i =>
      dsimp only at h
      split at h
      · rename_i hrange
        cases h
        cases t with
        | number n =>
          obtain ⟨hplaces, hpower, rfl, hzero⟩ := n.value?_eq_whole hv
          exact ⟨n, rfl, ⟨hplaces, hpower, hrange.1, hrange.2, hzero⟩, rfl⟩
        | _ => cases hv
      · cases h
  · rintro ⟨n, rfl, hn, rfl⟩
    have hvalue : (Tree.number n).number? = some (.whole n.signed) :=
      n.value?_whole hn.places hn.power (Int.le_trans hleast hn.least_le)
        (Int.le_trans hn.le_most hmost) hn.not_zero
    rw [wholeOn, hvalue]
    exact if_pos ⟨hn.least_le, hn.le_most⟩

theorem means_int32 : Means .int32 fun t =>
    (wholeOn Int32.minValue.toInt Int32.maxValue.toInt t).map Int32.ofInt :=
  (means_whole _ _ _).map _

theorem means_anything : Means .anything fun _ => some () where
  spelled {t s u} hs hu := by
    have hskip := skip_spelled [] t hs hu
    rw [skip_done] at hskip
    simp only [Reader.anything, hskip]
    rfl
  sound {s u a} h := by
    obtain ⟨v, hv, hp⟩ := map_eq_ok h
    cases hp
    exact skip_value_sound hv

/-- The value of `null` is none. -/
def orNullOn (f : Tree → Option α) : Tree → Option (Option α)
  | .null => some none
  | t => (f t).map some

theorem read_orNull {r : Reader α} {s v : List UInt8} {b : UInt8} (hs : skipBlank s = b :: v) :
    r.orNull.read s =
      if b = 0x6E then (word [0x75, 0x6C, 0x6C] v).map (none, ·) else (r.map some).read s := by
  simp only [Reader.orNull]
  split
  · rename_i w hw
    obtain ⟨rfl, rfl⟩ := List.cons_eq_cons.1 (hs.symm.trans hw)
    rw [if_pos rfl]
  · rename_i hne
    rw [if_neg fun hb => hne v (by rw [hs, hb])]

theorem Means.orNull {r : Reader α} {f : Tree → Option α} (h : Means r f) :
    Means r.orNull (orNullOn f) where
  spelled {t s u} hs hu := by
    obtain ⟨b, v, hv, hkind⟩ := hs.first
    have hread := (h.map some).spelled hs hu
    rw [read_orNull hv]
    cases t with
    | null =>
      obtain ⟨w, hw, hend⟩ := hs.skipBlank_eq
      obtain rfl := spells_nil.1 hend
      have hword : skipBlank s = 0x6E :: ([0x75, 0x6C, 0x6C] ++ w) := hw
      obtain ⟨rfl, rfl⟩ := List.cons_eq_cons.1 (hv.symm.trans hword)
      rw [if_pos rfl, word_append [0x75, 0x6C, 0x6C]]
      rfl
    | boolean x =>
      rw [if_neg (by rintro rfl; cases x <;> cases hkind)]
      exact hread
    | _ =>
      rw [if_neg (by rintro rfl; cases hkind)]
      exact hread
  sound {s u a} hread := by
    cases hs : skipBlank s with
    | nil =>
      simp only [Reader.orNull, hs] at hread
      exact (h.map some).sound hread
    | cons b v =>
      rw [read_orNull hs] at hread
      split at hread
      · rename_i hb
        obtain ⟨w, hw, hp⟩ := map_eq_ok hread
        cases hp
        refine ⟨.null, .of_front _ ?_ .nil⟩
        rw [hs, hb, word_sound hw]
        rfl
      · exact (h.map some).sound hread

/-! ## Lists -/

/-- Where the next item begins. -/
theorem nextElement_item {first : Bool} {t : Tree} {items : List Tree} {tokens : List Token}
    {s u : List UInt8} (h : Spells (itemTokens first (t :: items) ++ tokens) s u) :
    ∃ v, nextElement first s = .ok (.inl v) ∧
      Spells (t.tokens ++ (itemTokens false items ++ tokens)) v u := by
  rw [itemTokens, List.append_assoc, List.append_assoc] at h
  cases first with
  | true =>
    obtain ⟨b, x, hx, hb, hvalue⟩ := h.value_cons
    exact ⟨b :: x, by simp only [nextElement, hx, if_neg hb, if_true], hvalue⟩
  | false =>
    rw [separator, if_neg (by decide), List.singleton_append] at h
    obtain ⟨v, hv, hrest⟩ := h.skipBlank_eq
    obtain ⟨b, x, hx, hb, hvalue⟩ := hrest.value_cons
    have hcomma : skipBlank s = 0x2C :: v := hv
    refine ⟨b :: x, ?_, hvalue⟩
    simp only [nextElement, hcomma, hx, if_neg hb]
    rfl

theorem nextElement_end {first : Bool} {s u : List UInt8} (h : Spells [.closeList] s u) :
    nextElement first s = .ok (.inr u) := by
  obtain ⟨v, hv, hend⟩ := h.skipBlank_eq
  obtain rfl := spells_nil.1 hend
  have hclose : skipBlank s = 0x5D :: v := hv
  simp only [nextElement, hclose, if_true]

theorem nextElement_inl_sound {first : Bool} {s v : List UInt8}
    (h : nextElement first s = .ok (.inl v)) {t : Tree} {tokens : List Token} {u : List UInt8}
    (hv : Spells (t.tokens ++ tokens) v u) :
    Spells (separator first ++ (t.tokens ++ tokens)) s u := by
  unfold nextElement at h
  split at h
  · cases h
  rename_i b x hs
  split at h
  · cases h
  split at h
  · rename_i hfirst
    cases h
    rw [separator, if_pos hfirst, List.nil_append]
    rw [← hs] at hv
    exact hv.value_of_skipBlank
  rename_i hfirst
  split at h
  · rename_i hb
    split at h
    · cases h
    rename_i c y hx
    split at h
    · cases h
    · cases h
      rw [← hx] at hv
      rw [separator, if_neg hfirst, List.singleton_append]
      exact .of_front _ (hs.trans (congrArg (· :: x) hb)) hv.value_of_skipBlank
  · cases h

theorem nextElement_inr_sound {first : Bool} {s u : List UInt8}
    (h : nextElement first s = .ok (.inr u)) : Spells [.closeList] s u := by
  unfold nextElement at h
  split at h
  · cases h
  rename_i b x hs
  split at h
  · rename_i hb
    cases h
    exact .of_front _ (hs.trans (congrArg (· :: _) hb)) .nil
  split at h
  · cases h
  split at h
  · split at h
    · cases h
    · split at h <;> cases h
  · cases h

section Elements

variable {r : Reader α} {f : Tree → Option α} {first : Bool} {read : List α} {s t u : List UInt8}

theorem elements_end (h : nextElement first s = .ok (.inr t)) :
    elements r first read s = .ok (read.reverse, t) := by
  rw [elements]
  grind

theorem elements_item {a : α} (h : nextElement first s = .ok (.inl t))
    (hr : r.read t = .ok (a, u)) :
    elements r first read s = elements r false (a :: read) u := by
  conv => lhs; rw [elements]
  grind

theorem elements_fail {e : Failure} (h : nextElement first s = .ok (.inl t))
    (hr : r.read t = .error e) : elements r first read s = .error e := by
  rw [elements]
  grind

theorem elements_spelled (h : Means r f) {items : List Tree}
    (hs : Spells (itemTokens first items ++ [.closeList]) s u) :
    (elements r first read s).toOption =
      (items.mapM f).map fun l => (read.reverse ++ l, u) := by
  induction items generalizing first read s with
  | nil =>
    rw [elements_end (nextElement_end hs)]
    simp [Except.toOption]
  | cons t items ih =>
    obtain ⟨v, hv, hvalue⟩ := nextElement_item hs
    obtain ⟨w, ht, hitems⟩ := spells_append.1 hvalue
    rcases h.read_or_fail ht (stops_items hitems) with ⟨a, hf, hr⟩ | ⟨hf, e, hr⟩
    · rw [elements_item hv hr, ih hitems, List.mapM_cons, hf]
      cases items.mapM f <;> simp
    · rw [elements_fail hv hr, List.mapM_cons, hf]
      rfl

theorem elements_sound (h : Means r f) {l : List α} (hread : elements r first read s = .ok (l, u)) :
    ∃ items, Spells (itemTokens first items ++ [.closeList]) s u := by
  fun_induction elements r first read s with
  | case1 => cases hread
  | case2 first read s v hend =>
    cases hread
    exact ⟨[], nextElement_inr_sound hend⟩
  | case3 => cases hread
  | case4 first read s v hitem a w hr _ _ ih =>
    obtain ⟨items, hitems⟩ := ih hread
    obtain ⟨t, ht⟩ := h.sound hr
    refine ⟨t :: items, ?_⟩
    rw [itemTokens, List.append_assoc, List.append_assoc]
    exact nextElement_inl_sound hitem (ht.append hitems)

end Elements

theorem mapM_eq_some_iff {f : α → Option β} {xs : List α} {ys : List β} :
    xs.mapM f = some ys ↔ List.Forall₂ (fun x y => f x = some y) xs ys := by
  induction xs generalizing ys with
  | nil => cases ys <;> simp
  | cons x xs ih =>
    rw [List.mapM_cons]
    cases hx : f x with
    | none => cases ys <;> simp [hx]
    | some y =>
      cases hxs : xs.mapM f with
      | none => cases ys <;> simp [hx, ← ih, hxs]
      | some zs => cases ys <;> simp [hx, ← ih, hxs]

theorem exists_forall₂_iff {R : α → β → Prop} {xs : List α} :
    (∃ ys, List.Forall₂ R xs ys) ↔ ∀ x ∈ xs, ∃ y, R x y := by
  induction xs with
  | nil => simp
  | cons x xs ih => simp [List.forall₂_cons_left_iff, ← ih]

/-- What a list is of its items. -/
def listOn (f : Tree → Option α) : Tree → Option (List α)
  | .list items => items.mapM f
  | _ => none

theorem mapError_toOption {ε ε' : Type} (g : ε → ε') (x : Except ε α) :
    (x.mapError g).toOption = x.toOption := by
  cases x <;> rfl

theorem Means.list {r : Reader α} {f : Tree → Option α} (h : Means r f) :
    Means r.list (listOn f) where
  spelled {t s u} hs hu := by
    obtain ⟨b, v, hv, hkind⟩ := hs.first
    rw [Reader.list, read_atByte_of hv]
    cases t with
    | list items =>
      obtain ⟨w, hw, hitems⟩ := hs.skipBlank_eq
      have hopen : skipBlank s = 0x5B :: w := hw
      obtain ⟨rfl, rfl⟩ := List.cons_eq_cons.1 (hv.symm.trans hopen)
      rw [if_pos rfl, mapError_toOption, elements_spelled h hitems]
      rfl
    | boolean x =>
      rw [if_neg (by rintro rfl; cases x <;> cases hkind)]
      rfl
    | _ =>
      rw [if_neg (by rintro rfl; cases hkind)]
      rfl
  sound {s u a} hread := by
    obtain ⟨b, v, hv, hread⟩ := atByte_ok hread
    split at hread
    · rename_i hb
      cases he : elements r true [] v with
      | error e => rw [he] at hread; cases hread
      | ok p =>
        rw [he] at hread
        cases hread
        obtain ⟨items, hitems⟩ := elements_sound h he
        exact ⟨.list items, .of_front _ (hv.trans (congrArg (· :: v) hb)) hitems⟩
    · cases hread

end Sluice.Json
