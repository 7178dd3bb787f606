import Sluice.Proofs.Json.Scan

/-!
# Values read back

`Reads r v a` says that the reader `r` takes `v`, as it is written, off the front of any text that
may go on after a value, and makes `a` of it.  There is one lemma for each way to put readers
together; a record and a choice by name are read through the members of their objects, one after the
other (`Members.Takes`).
-/

namespace Sluice.Json

variable {α β σ : Type}

/-- The reader takes a value, as it is written, off the front of a text as `a`. -/
def Reads (r : Reader α) (v : Value) (a : α) : Prop :=
  ∀ s, Closes s → r.read (Text.bytes v.render ++ s) = .ok (a, s)

namespace Reads

variable {r : Reader α} {v : Value} {a : α}

theorem decode (h : Reads r v a) : r.decode (Text.bytes v.render) = .ok a := by
  have hread := h [] closes_nil
  rw [List.append_nil] at hread
  rw [Reader.decode, hread]
  rfl

theorem map (h : Reads r v a) (f : α → β) : Reads (r.map f) v (f a) := by
  intro s hs
  simp only [Reader.map, h s hs]

theorem accept {f : α → Except Cause β} {b : β} (h : Reads r v a) (hf : f a = .ok b) :
    Reads (r.accept f) v b := by
  intro s hs
  simp only [Reader.accept, h s hs, hf]

theorem acceptWithin {f : α → Except Cause β} {b : β} (h : Reads r v a) (hf : f a = .ok b) :
    Reads (r.acceptWithin f) v b := by
  intro s hs
  simp only [Reader.acceptWithin, h s hs, hf]

end Reads

/-! ## Plain values -/

theorem skipBlank_cons {b : UInt8} (h : isBlank b = false) (s : List UInt8) :
    skipBlank (b :: s) = b :: s := by
  rw [skipBlank, List.dropWhile_cons_of_neg (by simp [h])]

theorem read_atByte {f : UInt8 → List UInt8 → Outcome α} {hf} {b : UInt8} (h : isBlank b = false)
    (s : List UInt8) : (Reader.atByte f hf).read (b :: s) = f b s := by
  change atFirst f (b :: s) = f b s
  rw [atFirst, skipBlank_cons h]

theorem reads_stringAs (expected x : String) : Reads (.stringAs expected) (.string x) x := by
  intro s _
  obtain ⟨b, hb, hstring⟩ := bytes_writtenString x
  rw [Value.render, hb, List.cons_append, Reader.stringAs, read_atByte rfl, if_pos rfl, hstring]

theorem reads_string (x : String) : Reads .string (.string x) x := reads_stringAs _ x

theorem reads_string_orNull (x : String) : Reads (Reader.string.orNull) (.string x) (some x) := by
  intro s hs
  have hread := (reads_string x).map some s hs
  obtain ⟨b, hb, -⟩ := bytes_writtenString x
  rw [Value.render, hb, List.cons_append] at hread ⊢
  exact hread

theorem reads_boolean (b : Bool) : Reads .boolean (.boolean b) b := by
  intro s _
  cases b with
  | false =>
    have hb : Text.bytes "false" = [0x66, 0x61, 0x6C, 0x73, 0x65] := rfl
    rw [Value.render, hb]
    rfl
  | true =>
    have hb : Text.bytes "true" = [0x74, 0x72, 0x75, 0x65] := rfl
    rw [Value.render, hb]
    rfl

/-! ## Whole numbers -/

theorem bytes_repr (n : Nat) : Text.bytes n.repr = (Nat.toDigits 10 n).map Text.byteOf := by
  rw [Nat.repr_eq_ofList_toDigits]
  exact Text.bytes_ofList fun c hc =>
    Text.lt_of_isDigit (Nat.isDigit_of_mem_toDigits (by decide) (by decide) hc)

theorem not_isBlank_of_isDigit {b : UInt8} (h : isDigit b = true) : isBlank b = false := by
  rw [← Bool.not_eq_true]
  intro hb
  simp only [isBlank, Bool.or_eq_true, beq_iff_eq] at hb
  obtain ((rfl | rfl) | rfl) | rfl := hb <;> cases h

theorem read_digits {n : Nat} {s : List UInt8} (hn : n ≤ wholeLimit) (hs : Closes s)
    (expected : String) : (Reader.atByte (numberAt expected) numberAt_length).read
      (Text.bytes n.repr ++ s) = .ok (.whole n, s) := by
  have hnumber := number_digits hn hs true
  obtain ⟨d, ds, hds⟩ := List.exists_cons_of_ne_nil (Nat.toDigits_ne_nil (b := 10) (n := n))
  have hd : isDigit (Text.byteOf d) = true :=
    isDigit_byteOf (Nat.isDigit_of_mem_toDigits (by decide) (by decide)
      (hds ▸ List.mem_cons_self))
  have hminus : Text.byteOf d ≠ 0x2D := by
    intro h
    rw [h] at hd
    cases hd
  rw [hds, List.map_cons, List.cons_append] at hnumber
  rw [bytes_repr, hds, List.map_cons, List.cons_append, read_atByte (not_isBlank_of_isDigit hd),
    numberAt, if_neg hminus, if_pos hd, hnumber]
  rfl

theorem read_negative {n : Nat} {s : List UInt8} (hpos : 0 < n) (hn : n ≤ 9223372036854775808)
    (hs : Closes s) (expected : String) : (Reader.atByte (numberAt expected) numberAt_length).read
      (Text.bytes ("-" ++ n.repr) ++ s) = .ok (.whole (-n), s) := by
  have hlimit : n ≤ wholeLimit := Nat.le_trans hn (by decide)
  have hminus : Text.bytes "-" = [0x2D] := rfl
  have hwhole : afterWhole.wholeNumber false n = .whole (-n) := by
    rw [afterWhole.wholeNumber, if_neg (by decide), if_neg (by omega)]
  rw [Text.bytes_append, hminus, bytes_repr, List.append_assoc, List.singleton_append,
    read_atByte rfl, numberAt, if_pos rfl, number_digits hlimit hs, hwhole]

/-- A whole number within a range is read if it is one of 64 bits. -/
theorem reads_whole {least most n : Int} (hleast : least ≤ n) (hmost : n ≤ most)
    (hmin : -9223372036854775808 ≤ n) (hmax : n ≤ wholeLimit) (expected : String) :
    Reads (.whole least most expected) (.whole n) n := by
  have hnumber : Reads (.atByte (numberAt expected) numberAt_length) (.whole n) (.whole n) := by
    intro s hs
    cases n with
    | ofNat n => exact read_digits (Int.ofNat_le.1 hmax) hs expected
    | negSucc n => exact read_negative (Nat.succ_pos n) (by omega) hs expected
  exact hnumber.accept (if_pos ⟨hleast, hmost⟩)

theorem reads_int32 (n : Int32) : Reads .int32 (.whole n.toInt) n := by
  have hwhole := reads_whole n.minValue_le_toInt n.toInt_le
    (Int.le_trans (by decide) n.minValue_le_toInt) (Int.le_trans n.toInt_le (by decide)) "i32"
  have h := hwhole.map Int32.ofInt
  rwa [Int32.ofInt_toInt] at h

/-! ## Objects -/

/-- The members of an object after the first. -/
def moreMembers : List (String × Value) → String
  | [] => ""
  | w :: ms => "," ++ renderMembers (w :: ms)

theorem renderMembers_cons (k : String) (v : Value) (ms : List (String × Value)) :
    renderMembers ((k, v) :: ms) = writtenString k ++ ":" ++ v.render ++ moreMembers ms := by
  cases ms with
  | nil => rw [renderMembers, moreMembers, String.append_empty]
  | cons w ms => rw [renderMembers, moreMembers, String.append_assoc]

/-- The bytes of an object: a bracket, its members and a bracket. -/
theorem bytes_object (ms : List (String × Value)) (s : List UInt8) :
    Text.bytes (Value.object ms).render ++ s =
      0x7B :: (Text.bytes (renderMembers ms) ++ 0x7D :: s) := by
  have hopen : Text.bytes "\x7b" = [0x7B] := rfl
  have hclose : Text.bytes "\x7d" = [0x7D] := rfl
  rw [Value.render, Text.bytes_append, Text.bytes_append, hopen, hclose]
  simp

theorem closes_moreMembers (ms : List (String × Value)) (s : List UInt8) :
    Closes (Text.bytes (moreMembers ms) ++ 0x7D :: s) := by
  cases ms with
  | nil => exact closes_cons (.inr (.inr rfl)) s
  | cons w ms =>
    have hcomma : Text.bytes "," = [0x2C] := rfl
    rw [moreMembers, Text.bytes_append, hcomma]
    exact closes_cons (.inl rfl) _

/-- The bytes of a member: its key, a colon, its value, and the members after it. -/
theorem bytes_member (k : String) (v : Value) (ms : List (String × Value)) :
    ∃ b, (∀ s, Text.bytes (renderMembers ((k, v) :: ms)) ++ s =
        0x22 :: (b ++ 0x3A :: (Text.bytes v.render ++ (Text.bytes (moreMembers ms) ++ s)))) ∧
      ∀ s, string (b ++ s) = .ok (k, s) := by
  obtain ⟨b, hb, hstring⟩ := bytes_writtenString k
  have hcolon : Text.bytes ":" = [0x3A] := rfl
  refine ⟨b, fun s => ?_, hstring⟩
  rw [renderMembers_cons, Text.bytes_append, Text.bytes_append, Text.bytes_append, hb, hcolon]
  simp

namespace Members

variable {m : Members σ}

theorem from_end {first : Bool} {x : σ} {s t : List UInt8} (h : nextKey first s = .ok (.inr t)) :
    m.from first x s = .ok (x, t) := by
  rw [Members.from]
  grind

theorem from_member {first : Bool} {x y : σ} {s t u w : List UInt8} {k : String} {r : Reader σ}
    (hnext : nextKey first s = .ok (.inl t)) (hkey : string t = .ok (k, 0x3A :: u))
    (hmember : m.member x k = .ok r) (hread : r.read u = .ok (y, w)) :
    m.from first x s = m.from false y w := by
  have hcolon : colon (0x3A :: u) = .ok u := rfl
  rw [Members.from]
  grind

/-- Members are taken in one after the other, from one state of what is read to another. -/
inductive Takes (m : Members σ) : σ → List (String × Value) → σ → Prop
  | done (x : σ) : Takes m x [] x
  | next {x y z : σ} {k : String} {v : Value} {ms : List (String × Value)} {r : Reader σ}
      (hmember : m.member x k = .ok r) (hread : Reads r v y) (hmore : Takes m y ms z) :
      Takes m x ((k, v) :: ms) z

/-- The first of some members is read, wherever its key is found. -/
theorem from_written {first : Bool} {x y : σ} {k : String} {v : Value} {r : Reader σ}
    {ms : List (String × Value)} {s t u : List UInt8}
    (hnext : ∀ w, nextKey first (s ++ 0x22 :: w) = .ok (.inl w)) (hmember : m.member x k = .ok r)
    (hread : Reads r v y) (hu : u = Text.bytes (renderMembers ((k, v) :: ms)) ++ 0x7D :: t) :
    m.from first x (s ++ u) = m.from false y (Text.bytes (moreMembers ms) ++ 0x7D :: t) := by
  obtain ⟨b, hb, hkey⟩ := bytes_member k v ms
  rw [hu, hb]
  exact from_member (hnext _) (hkey _) hmember (hread _ (closes_moreMembers ms t))

theorem Takes.from_more {x y : σ} {ms : List (String × Value)} (h : m.Takes x ms y)
    (s : List UInt8) : m.from false x (Text.bytes (moreMembers ms) ++ 0x7D :: s) = .ok (y, s) := by
  induction h with
  | done x => exact from_end rfl
  | next hmember hread _ ih =>
    have hcomma : Text.bytes "," = [0x2C] := rfl
    rw [moreMembers, Text.bytes_append, hcomma, List.append_assoc,
      from_written (fun _ => rfl) hmember hread rfl, ih]

theorem Takes.from_first {x y : σ} {ms : List (String × Value)} (h : m.Takes x ms y)
    (s : List UInt8) : m.from true x (Text.bytes (renderMembers ms) ++ 0x7D :: s) = .ok (y, s) := by
  cases h with
  | done x => exact from_end rfl
  | next hmember hread hmore =>
    exact (from_written (s := []) (fun _ => rfl) hmember hread rfl).trans (hmore.from_more s)

theorem Takes.whole {x y : σ} {ms : List (String × Value)} (h : m.Takes x ms y)
    {finish : σ → Except Cause α} {a : α} (hfinish : finish y = .ok a) (s : List UInt8) :
    m.whole x finish (Text.bytes (renderMembers ms) ++ 0x7D :: s) = .ok (a, s) := by
  rw [Members.whole, h.from_first s]
  dsimp only
  rw [hfinish]

theorem Takes.reads {x y : σ} {ms : List (String × Value)} (h : m.Takes x ms y)
    {finish : σ → Except Cause α} {a : α} (hfinish : finish y = .ok a) (expected : String) :
    Reads (.members expected m x finish) (.object ms) a := by
  intro s _
  rw [bytes_object, Reader.members, read_atByte rfl, if_pos rfl, h.whole hfinish]

end Members

/-! ## Records -/

namespace Record

variable {r : Record α} {p q : Partial α} {ms : List (String × Value)}

theorem reads (h : r.asObject.Takes ⟨[], r.blank⟩ ms p) {a : α} (hfinish : r.finish p = .ok a) :
    Reads r.reader (.object ms) a := by
  intro s _
  rw [bytes_object, Record.reader, read_atByte rfl, if_pos rfl, h.whole hfinish]

/-- A field that was not read before is taken in. -/
theorem takes_field {f : Field α} {k : String} {v : Value} {set : α → α}
    (hfield : r.field? k = some f) (hseen : p.seen.contains f.name = false)
    (hread : Reads f.value v set)
    (hmore : r.asObject.Takes ⟨f.name :: p.seen, set p.value⟩ ms q) :
    r.asObject.Takes p ((k, v) :: ms) q := by
  have hmember : r.asObject.member p k =
      .ok (f.value.map fun set => ⟨f.name :: p.seen, set p.value⟩) := by
    simp only [Record.asObject, hfield, hseen]
    rfl
  exact .next hmember (hread.map _) hmore

end Record

/-! ## Alternatives by name -/

theorem reads_tagged {as : List (Alternative α)} {name : String} {x : Alternative α} {v : Value}
    {a : α} (hfind : as.find? (·.names.contains name) = some x) (hread : Reads x.content v a) :
    Reads (.tagged as) (.object [(name, v)]) a := by
  intro s _
  obtain ⟨b, hb, hname⟩ := bytes_member name v []
  have hcontent : taggedContent x
      (0x3A :: (Text.bytes v.render ++ (Text.bytes (moreMembers []) ++ 0x7D :: s))) =
        .ok (a, s) := by
    have hcolon (u : List UInt8) : colon (0x3A :: u) = .ok u := rfl
    rw [taggedContent, hcolon]
    dsimp only
    rw [hread _ (closes_moreMembers [] s)]
    rfl
  rw [bytes_object, hb, Reader.tagged, read_atByte rfl, if_pos rfl, taggedMember,
    skipBlank_cons rfl]
  dsimp only
  rw [if_pos rfl, hname]
  dsimp only
  rw [alternativeOf, hfind]
  exact hcontent

end Sluice.Json
