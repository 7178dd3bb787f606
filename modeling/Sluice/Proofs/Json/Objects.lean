import Sluice.Proofs.Json.Meaning

/-!
# What a reader makes of an object

An object is read member by member: each key decides how its value is read into what was read
before, so the members make a value one after the other (`Members.on`).  An alternative by its name
and a record are read in the same way, and a record also from a list of its values (`fieldsOn`).
-/

namespace Sluice.Json

variable {α σ : Type}

/-! ## Objects -/

/-- Where the next key begins. -/
theorem nextKey_member {first : Bool} {k : Spelling} {t : Tree} {ms : List (Spelling × Tree)}
    {tokens : List Token} {s u : List UInt8}
    (h : Spells (memberTokens first ((k, t) :: ms) ++ tokens) s u) :
    ∃ v, nextKey first s = .ok (.inl (k.bytes ++ 0x22 :: v)) ∧
      Spells (.colon :: (t.tokens ++ (memberTokens false ms ++ tokens))) v u := by
  rw [memberTokens, List.append_assoc, List.cons_append, List.cons_append, List.append_assoc] at h
  have hquote (v : List UInt8) :
      (Token.string k).bytes ++ v = 0x22 :: (k.bytes ++ 0x22 :: v) := by simp [Token.bytes]
  cases first with
  | true =>
    rw [separator, if_pos rfl, List.nil_append] at h
    obtain ⟨v, hv, hrest⟩ := h.skipBlank_eq
    rw [hquote] at hv
    refine ⟨v, ?_, hrest⟩
    simp only [nextKey, hv]
    rfl
  | false =>
    rw [separator, if_neg (by decide), List.singleton_append] at h
    obtain ⟨w, hw, hkey⟩ := h.skipBlank_eq
    obtain ⟨v, hv, hrest⟩ := hkey.skipBlank_eq
    rw [hquote] at hv
    have hcomma : skipBlank s = 0x2C :: w := hw
    refine ⟨v, ?_, hrest⟩
    simp only [nextKey, hcomma, hv]
    rfl

theorem nextKey_end {first : Bool} {s u : List UInt8} (h : Spells [.closeObject] s u) :
    nextKey first s = .ok (.inr u) := by
  obtain ⟨v, hv, hend⟩ := h.skipBlank_eq
  obtain rfl := spells_nil.1 hend
  have hclose : skipBlank s = 0x7D :: v := hv
  simp only [nextKey, hclose, if_true]

theorem nextKey_inl_sound {first : Bool} {s v w u : List UInt8} {k : Spelling}
    {tokens : List Token} (h : nextKey first s = .ok (.inl v)) (hv : v = k.bytes ++ 0x22 :: w)
    (hw : Spells tokens w u) : Spells (separator first ++ .string k :: tokens) s u := by
  have hquote : 0x22 :: v = (Token.string k).bytes ++ w := by simp [hv, Token.bytes]
  unfold nextKey at h
  split at h
  · cases h
  rename_i b x hs
  split at h
  · cases h
  split at h
  · rename_i hfirst
    split at h
    · rename_i hb
      cases h
      rw [separator, if_pos hfirst, List.nil_append]
      exact .of_front _ (by rw [hs, hb, hquote]) hw
    · cases h
  rename_i hfirst
  split at h
  · rename_i hb
    split at h
    · cases h
    rename_i c y hx
    split at h
    · rename_i hc
      cases h
      rw [separator, if_neg hfirst, List.singleton_append]
      refine .of_front _ (hs.trans (congrArg (· :: x) hb)) (.of_front _ ?_ hw)
      rw [hx, hc, hquote]
    · split at h <;> cases h
  · cases h

theorem nextKey_inr_sound {first : Bool} {s u : List UInt8} (h : nextKey first s = .ok (.inr u)) :
    Spells [.closeObject] s u := by
  unfold nextKey at h
  split at h
  · cases h
  rename_i b x hs
  split at h
  · rename_i hb
    cases h
    exact .of_front _ (hs.trans (congrArg (· :: _) hb)) .nil
  split at h
  · split at h <;> cases h
  split at h
  · split at h
    · cases h
    · split at h
      · cases h
      · split at h <;> cases h
  · cases h

theorem colon_spelled {tokens : List Token} {s u : List UInt8} (h : Spells (.colon :: tokens) s u) :
    ∃ v, colon s = .ok v ∧ Spells tokens v u := by
  obtain ⟨v, hv, hrest⟩ := h.skipBlank_eq
  have hcolon : skipBlank s = 0x3A :: v := hv
  refine ⟨v, ?_, hrest⟩
  simp only [colon, hcolon, if_true]

theorem colon_sound {tokens : List Token} {s v u : List UInt8} (h : colon s = .ok v)
    (hv : Spells tokens v u) : Spells (.colon :: tokens) s u := by
  unfold colon at h
  split at h
  · cases h
  rename_i b x hs
  split at h
  · rename_i hb
    cases h
    exact .of_front _ (hs.trans (congrArg (· :: _) hb)) hv
  · cases h

namespace Members

/-- What the members of an object make, one after the other. -/
def on (m : Members σ) : σ → List (Spelling × Tree) → Option σ
  | x, [] => some x
  | x, (k, t) :: ms => do
    let key ← k.text?
    let r ← (m.member x key).toOption
    let y ← r.on t
    m.on y ms

/-- What a member makes of what was read before. -/
def put (m : Members σ) (x : σ) (a : Spelling × Tree) : Option σ :=
  a.1.text?.bind fun key => (m.member x key).toOption.bind fun r => r.on a.2

theorem on_cons (m : Members σ) (x : σ) (a : Spelling × Tree) (ms : List (Spelling × Tree)) :
    m.on x (a :: ms) = (m.put x a).bind fun y => m.on y ms := by
  obtain ⟨k, t⟩ := a
  simp only [on, put, Option.bind_eq_bind, Option.bind_assoc]

variable {m : Members σ} {first : Bool} {x : σ} {s t u : List UInt8}

/-- All values of members are read by their trees. -/
def AllMean (m : Members σ) : Prop := ∀ {x key r}, m.member x key = .ok r → Means r r.on

theorem from_key_fail {e : Failure} (h : nextKey first s = .ok (.inl t))
    (hkey : string t = .error e) : m.from first x s = .error e := by
  rw [Members.from]
  grind

theorem from_refuse {key : String} {c : Cause} (h : nextKey first s = .ok (.inl t))
    (hkey : string t = .ok (key, u)) (hmember : m.member x key = .error c) :
    m.from first x s = .error (.within c u) := by
  rw [Members.from]
  grind

theorem from_read {key : String} {r : Reader σ} {v w : List UInt8} {y : σ}
    (h : nextKey first s = .ok (.inl t)) (hkey : string t = .ok (key, u))
    (hmember : m.member x key = .ok r) (hcolon : colon u = .ok v) (hread : r.read v = .ok (y, w)) :
    m.from first x s = m.from false y w := by
  conv => lhs; rw [Members.from]
  grind

theorem from_read_fail {key : String} {r : Reader σ} {v : List UInt8} {e : Failure}
    (h : nextKey first s = .ok (.inl t)) (hkey : string t = .ok (key, u))
    (hmember : m.member x key = .ok r) (hcolon : colon u = .ok v) (hread : r.read v = .error e) :
    m.from first x s = .error e := by
  rw [Members.from]
  grind

theorem from_spelled (h : m.AllMean) {ms : List (Spelling × Tree)}
    (hs : Spells (memberTokens first ms ++ [.closeObject]) s u) :
    (m.from first x s).toOption = (m.on x ms).map (·, u) := by
  induction ms generalizing first x s with
  | nil =>
    rw [from_end (nextKey_end hs)]
    rfl
  | cons p ms ih =>
    obtain ⟨k, t⟩ := p
    obtain ⟨v, hv, hrest⟩ := nextKey_member hs
    obtain ⟨w, hw, hvalue⟩ := colon_spelled hrest
    obtain ⟨y, ht, hms⟩ := spells_append.1 hvalue
    rw [on]
    rcases taken_or_failed (string_spelled k v) with ⟨key, hk, hx⟩ | ⟨hk, e, hx⟩
    · rw [hk]
      cases hm : m.member x key with
      | error c =>
        rw [from_refuse hv hx hm]
        simp [hm, Except.toOption]
      | ok r =>
        rcases (h hm).read_or_fail ht (stops_members hms) with ⟨z, hz, hr⟩ | ⟨hz, e, hr⟩
        · rw [from_read hv hx hm hw hr, ih hms]
          simp [hm, hz, Except.toOption]
        · rw [from_read_fail hv hx hm hw hr]
          simp [hm, hz, Except.toOption]
    · rw [from_key_fail hv hx, hk]
      rfl

theorem from_sound (h : m.AllMean) {y : σ} (hread : m.from first x s = .ok (y, u)) :
    ∃ ms, Spells (memberTokens first ms ++ [.closeObject]) s u := by
  fun_induction Members.from m first x s with
  | case2 first x s t hend =>
    cases hread
    exact ⟨[], nextKey_inr_sound hend⟩
  | case7 first x s v hk key w hx r hm y hc z u' hr _ _ _ _ ih =>
    obtain ⟨ms, hms⟩ := ih hread
    obtain ⟨k, hk', -⟩ := string_sound hx
    obtain ⟨t, ht⟩ := (h hm).sound hr
    refine ⟨(k, t) :: ms, ?_⟩
    rw [memberTokens, List.append_assoc, List.cons_append, List.cons_append, List.append_assoc]
    exact nextKey_inl_sound hk hk' (colon_sound hc (ht.append hms))
  | _ => cases hread

end Members

/-- What an object makes of its members. -/
def membersOn (m : Members σ) (start : σ) (finish : σ → Except Cause α) :
    Tree → Option α
  | .object ms => (m.on start ms).bind fun x => (finish x).toOption
  | _ => none

theorem Members.whole_spelled {m : Members σ} (h : m.AllMean) {start : σ}
    {finish : σ → Except Cause α} {ms : List (Spelling × Tree)} {s u : List UInt8}
    (hs : Spells (memberTokens true ms ++ [.closeObject]) s u) :
    (m.whole start finish s).toOption =
      ((m.on start ms).bind fun x => (finish x).toOption).map (·, u) := by
  rw [Members.whole]
  rcases taken_or_failed (from_spelled h (x := start) hs) with ⟨x, hx, hfrom⟩ | ⟨hx, e, hfrom⟩
  · simp only [hx, hfrom, Option.bind_some]
    cases finish x <;> rfl
  · simp only [hx, hfrom]
    rfl

theorem Members.whole_sound {m : Members σ} (h : m.AllMean) {start : σ}
    {finish : σ → Except Cause α} {s u : List UInt8} {a : α}
    (hread : m.whole start finish s = .ok (a, u)) :
    ∃ ms, Spells (memberTokens true ms ++ [.closeObject]) s u := by
  unfold Members.whole at hread
  split at hread
  · cases hread
  · rename_i hx
    split at hread
    · cases hread
      exact from_sound h hx
    · cases hread

/-- The first token of an object, and what follows it. -/
theorem Spells.object {ms : List (Spelling × Tree)} {b : UInt8} {s v u : List UInt8}
    (h : Spells (Tree.object ms).tokens s u) (hv : skipBlank s = b :: v) :
    b = 0x7B ∧ Spells (memberTokens true ms ++ [.closeObject]) v u := by
  obtain ⟨w, hw, hms⟩ := h.skipBlank_eq
  have hopen : skipBlank s = 0x7B :: w := hw
  obtain ⟨rfl, rfl⟩ := List.cons_eq_cons.1 (hv.symm.trans hopen)
  exact ⟨rfl, hms⟩

theorem means_members {m : Members σ} (h : m.AllMean) (expected : String) (start : σ)
    (finish : σ → Except Cause α) :
    Means (.members expected m start finish) (membersOn m start finish) where
  spelled {t s u} hs hu := by
    obtain ⟨b, v, hv, hkind⟩ := hs.first
    rw [Reader.members, read_atByte_of hv]
    cases t with
    | object ms =>
      obtain ⟨rfl, hms⟩ := hs.object hv
      rw [if_pos rfl]
      exact Members.whole_spelled h hms
    | boolean x =>
      rw [if_neg (by rintro rfl; cases x <;> cases hkind)]
      rfl
    | _ =>
      rw [if_neg (by rintro rfl; cases hkind)]
      rfl
  sound {s u a} hread := by
    obtain ⟨b, v, hv, hread⟩ := atByte_ok hread
    split at hread
    · rename_i hb
      obtain ⟨ms, hms⟩ := Members.whole_sound h hread
      exact ⟨.object ms, .of_front _ (hv.trans (congrArg (· :: v) hb)) hms⟩
    · cases hread

/-! ## Alternatives by name -/

/-- The alternative of a name. -/
def named? (as : List (Alternative α)) (name : String) : Option (Alternative α) :=
  as.find? (·.names.contains name)

/-- What an alternative is of its only member, or of its name alone. -/
def taggedOn (as : List (Alternative α)) : Tree → Option α
  | .object [(k, t)] => k.text?.bind fun name => (named? as name).bind fun a => a.content.on t
  | .string x => x.text?.bind fun name => (named? as name).bind (·.bare)
  | _ => none

section Tagged

variable {as : List (Alternative α)} {a : Alternative α} {s u v : List UInt8}

theorem alternativeOf_toOption (as : List (Alternative α)) (name : String) (s : List UInt8) :
    (alternativeOf as name s).toOption = named? as name := by
  rw [alternativeOf, named?]
  cases as.find? (·.names.contains name) <;> rfl

theorem taggedContent_spelled (h : Means a.content a.content.on) {t : Tree}
    {ms : List (Spelling × Tree)}
    (hs : Spells (.colon :: (t.tokens ++ (memberTokens false ms ++ [.closeObject]))) s u) :
    (taggedContent a s).toOption =
      if ms.isEmpty then (a.content.on t).map (·, u) else none := by
  obtain ⟨w, hw, hvalue⟩ := colon_spelled hs
  obtain ⟨y, ht, hms⟩ := spells_append.1 hvalue
  rw [taggedContent, hw]
  dsimp only
  rcases h.read_or_fail ht (stops_members hms) with ⟨z, hz, hr⟩ | ⟨hz, e, hr⟩
  · rw [hr, hz]
    dsimp only
    cases ms with
    | nil =>
      obtain ⟨x, hx, hend⟩ := Spells.skipBlank_eq hms
      obtain rfl := spells_nil.1 hend
      have hclose : skipBlank y = 0x7D :: x := hx
      rw [hclose]
      rfl
    | cons p ms =>
      obtain ⟨x, hx, -⟩ := Spells.skipBlank_eq hms
      have hcomma : skipBlank y = 0x2C :: x := hx
      rw [hcomma]
      rfl
  · rw [hr, hz, Option.map_none, ite_self]
    rfl

theorem taggedContent_sound (h : Means a.content a.content.on) {x : α}
    (hread : taggedContent a s = .ok (x, u)) :
    ∃ t : Tree, Spells (.colon :: (t.tokens ++ [.closeObject])) s u := by
  unfold taggedContent at hread
  split at hread
  · cases hread
  rename_i hc
  split at hread
  · cases hread
  rename_i hr
  split at hread
  · cases hread
  rename_i b w hb
  split at hread
  · rename_i hclose
    cases hread
    obtain ⟨t, ht⟩ := h.sound hr
    have hend := Spells.of_front .closeObject (hb.trans (congrArg (· :: _) hclose)) .nil
    exact ⟨t, colon_sound hc (ht.append hend)⟩
  · cases hread

/-- All values of alternatives are read by their trees. -/
def AllContentsMean (as : List (Alternative α)) : Prop := ∀ a ∈ as, Means a.content a.content.on

theorem AllContentsMean.named (h : AllContentsMean as) {name : String}
    (hname : named? as name = some a) : Means a.content a.content.on :=
  h a (List.mem_of_find?_eq_some hname)

theorem taggedMember_spelled (h : AllContentsMean as) {ms : List (Spelling × Tree)}
    (hs : Spells (memberTokens true ms ++ [.closeObject]) s u) :
    (taggedMember as s).toOption = (taggedOn as (.object ms)).map (·, u) := by
  cases ms with
  | nil =>
    obtain ⟨w, hw, -⟩ := Spells.skipBlank_eq hs
    have hclose : skipBlank s = 0x7D :: w := hw
    rw [taggedMember, hclose]
    rfl
  | cons p ms =>
    obtain ⟨k, t⟩ := p
    rw [memberTokens, separator, if_pos rfl, List.nil_append, List.cons_append, List.cons_append,
      List.append_assoc] at hs
    obtain ⟨v, hv, hrest⟩ := Spells.skipBlank_eq hs
    have hquote : skipBlank s = 0x22 :: (k.bytes ++ 0x22 :: v) := by simp [hv, Token.bytes]
    have hon : (taggedOn as (.object ((k, t) :: ms))).map (·, u) =
        k.text?.bind fun name => (named? as name).bind fun a =>
          if ms.isEmpty then (a.content.on t).map (·, u) else none := by
      rw [taggedOn.eq_def]
      cases ms with
      | nil =>
        dsimp only
        cases k.text? with
        | none => rfl
        | some name =>
          rw [Option.bind_some, Option.bind_some]
          cases named? as name <;> rfl
      | cons q ms => simp
    rw [hon, taggedMember, hquote]
    dsimp only
    rw [if_pos rfl]
    rcases taken_or_failed (string_spelled k v) with ⟨name, hname, hx⟩ | ⟨hname, e, hx⟩
    · rw [hname, hx, Option.bind_some]
      dsimp only
      have hfind := alternativeOf_toOption as name v
      cases ha : alternativeOf as name v with
      | error e =>
        rw [ha] at hfind
        rw [← hfind]
        rfl
      | ok a =>
        rw [ha] at hfind
        rw [← hfind]
        exact taggedContent_spelled (h.named hfind.symm) hrest
    · rw [hname, hx]
      rfl

theorem taggedMember_sound (h : AllContentsMean as) {x : α}
    (hread : taggedMember as s = .ok (x, u)) :
    ∃ ms, Spells (memberTokens true ms ++ [.closeObject]) s u := by
  unfold taggedMember at hread
  split at hread
  · cases hread
  rename_i b v hb
  split at hread
  · rename_i hquote
    split at hread
    · cases hread
    rename_i name w hx
    have hfind := alternativeOf_toOption as name w
    split at hread
    · cases hread
    rename_i a ha
    rw [ha] at hfind
    obtain ⟨k, rfl, -⟩ := string_sound hx
    obtain ⟨t, ht⟩ := taggedContent_sound (h.named hfind.symm) hread
    refine ⟨[(k, t)], ?_⟩
    rw [memberTokens, separator, if_pos rfl, List.nil_append, List.cons_append, List.cons_append,
      List.append_assoc]
    exact .of_front _ (by simp [hb, hquote, Token.bytes]) ht
  · split at hread <;> cases hread

theorem bareName_spelled (x : Spelling) (s : List UInt8) :
    (bareName as (x.bytes ++ 0x22 :: s)).toOption = (taggedOn as (.string x)).map (·, s) := by
  rw [bareName, taggedOn]
  rcases taken_or_failed (string_spelled x s) with ⟨name, hname, hx⟩ | ⟨hname, e, hx⟩
  · rw [hname, hx, Option.bind_some]
    dsimp only
    have hfind := alternativeOf_toOption as name s
    cases ha : alternativeOf as name s with
    | error e =>
      rw [ha] at hfind
      rw [← hfind]
      rfl
    | ok a =>
      rw [ha] at hfind
      rw [← hfind]
      dsimp only [Except.toOption]
      rw [Option.bind_some]
      cases a.bare <;> rfl
  · rw [hname, hx]
    rfl

theorem bareName_sound {x : α} (hread : bareName as s = .ok (x, u)) :
    ∃ k : Spelling, s = k.bytes ++ 0x22 :: u := by
  unfold bareName at hread
  split at hread
  · cases hread
  rename_i hx
  split at hread
  · cases hread
  split at hread
  · cases hread
    obtain ⟨k, hk, -⟩ := string_sound hx
    exact ⟨k, hk⟩
  · cases hread

theorem means_tagged (h : AllContentsMean as) : Means (.tagged as) (taggedOn as) where
  spelled {t s u} hs hu := by
    obtain ⟨b, v, hv, hkind⟩ := hs.first
    rw [Reader.tagged, read_atByte_of hv]
    cases t with
    | object ms =>
      obtain ⟨rfl, hms⟩ := hs.object hv
      rw [if_pos rfl, taggedMember_spelled h hms]
    | string x =>
      obtain ⟨w, hw, hend⟩ := hs.skipBlank_eq
      obtain rfl := spells_nil.1 hend
      rw [Token.bytes, List.cons_append, List.append_assoc, List.singleton_append, hv] at hw
      obtain ⟨rfl, rfl⟩ := List.cons_eq_cons.1 hw
      rw [if_neg (by decide), if_pos rfl, bareName_spelled]
    | boolean x =>
      rw [if_neg (by rintro rfl; cases x <;> cases hkind),
        if_neg (by rintro rfl; cases x <;> cases hkind)]
      rfl
    | _ =>
      rw [if_neg (by rintro rfl; cases hkind), if_neg (by rintro rfl; cases hkind)]
      rfl
  sound {s u a} hread := by
    obtain ⟨b, v, hv, hread⟩ := atByte_ok hread
    split at hread
    · rename_i hb
      obtain ⟨ms, hms⟩ := taggedMember_sound h hread
      exact ⟨.object ms, .of_front _ (hv.trans (congrArg (· :: v) hb)) hms⟩
    split at hread
    · rename_i hb
      obtain ⟨x, rfl⟩ := bareName_sound hread
      refine ⟨.string x, .of_front _ ?_ .nil⟩
      rw [hv, hb, Token.bytes, List.cons_append, List.append_assoc, List.singleton_append]
    · cases hread

end Tagged

/-! ## Records -/

/-- What the items of a list make of the fields from here on. -/
def fieldsOn : α → List (Field α) → List Tree → Option α
  | x, [], [] => some x
  | _, [], _ :: _ => none
  | x, f :: fs, [] => if (f :: fs).all (·.absence == .kept) then some x else none
  | x, f :: fs, t :: items => (f.value.on t).bind fun set => fieldsOn (set x) fs items

section List

variable {r : Record α} {fs : List (Field α)} {taken : Nat} {x : α} {s u : List UInt8}

theorem endOfList_end (h : Spells [.closeList] s u) : endOfList s = .ok u := by
  obtain ⟨v, hv, hend⟩ := h.skipBlank_eq
  obtain rfl := spells_nil.1 hend
  have hclose : skipBlank s = 0x5D :: v := hv
  simp only [endOfList, hclose, if_true]

theorem endOfList_item {first : Bool} {v : List UInt8} (h : nextElement first s = .ok (.inl v)) :
    ∃ e, endOfList s = .error e := by
  unfold nextElement at h
  split at h
  · cases h
  rename_i b w hb
  split at h
  · cases h
  rename_i hclose
  simp only [endOfList, hb, if_neg hclose]
  split
  · split <;> exact ⟨_, rfl⟩
  · exact ⟨_, rfl⟩

theorem endOfList_sound (h : endOfList s = .ok u) : Spells [.closeList] s u := by
  unfold endOfList at h
  split at h
  · cases h
  rename_i b w hb
  split at h
  · rename_i hclose
    cases h
    exact .of_front _ (hb.trans (congrArg (· :: _) hclose)) .nil
  split at h
  · split at h <;> cases h
  · cases h

theorem fromList_spelled (h : ∀ f ∈ fs, Means f.value f.value.on) {items : List Tree}
    (hs : Spells (itemTokens (taken == 0) items ++ [.closeList]) s u) :
    (r.fromList taken x fs s).toOption = (fieldsOn x fs items).map (·, u) := by
  induction fs generalizing taken x items s with
  | nil =>
    rw [Record.fromList]
    cases items with
    | nil =>
      rw [endOfList_end hs]
      rfl
    | cons t items =>
      obtain ⟨v, hv, -⟩ := nextElement_item hs
      obtain ⟨e, he⟩ := endOfList_item hv
      rw [he]
      rfl
  | cons f fs ih =>
    rw [Record.fromList]
    cases items with
    | nil =>
      rw [nextElement_end hs, fieldsOn]
      dsimp only
      have hall : ((f :: fs).findIdx? (·.absence != .kept)).isNone =
          (f :: fs).all (·.absence == .kept) := by
        rw [Bool.eq_iff_iff, Option.isNone_iff_eq_none, List.findIdx?_eq_none_iff, List.all_eq_true]
        simp
      rw [← hall]
      cases (f :: fs).findIdx? (·.absence != .kept) <;> rfl
    | cons t items =>
      obtain ⟨v, hv, hvalue⟩ := nextElement_item hs
      obtain ⟨w, ht, hitems⟩ := spells_append.1 hvalue
      rw [hv, fieldsOn]
      dsimp only
      rcases (h f List.mem_cons_self).read_or_fail ht (stops_items hitems) with
        ⟨set, hset, hr⟩ | ⟨hset, e, hr⟩
      · rw [hset, hr, Option.bind_some]
        exact ih (fun g hg => h g (List.mem_cons_of_mem f hg)) hitems
      · rw [hset, hr]
        rfl

theorem fromList_sound (h : ∀ f ∈ fs, Means f.value f.value.on) {a : α}
    (hread : r.fromList taken x fs s = .ok (a, u)) :
    ∃ items, Spells (itemTokens (taken == 0) items ++ [.closeList]) s u := by
  induction fs generalizing taken x s with
  | nil =>
    obtain ⟨v, hv, hp⟩ := map_eq_ok hread
    cases hp
    exact ⟨[], endOfList_sound hv⟩
  | cons f fs ih =>
    rw [Record.fromList] at hread
    split at hread
    · cases hread
    · rename_i hend
      split at hread
      · cases hread
      · cases hread
        exact ⟨[], nextElement_inr_sound hend⟩
    · rename_i hitem
      split at hread
      · cases hread
      · rename_i hr
        obtain ⟨items, hitems⟩ := ih (fun g hg => h g (List.mem_cons_of_mem f hg)) hread
        obtain ⟨t, ht⟩ := (h f List.mem_cons_self).sound hr
        refine ⟨t :: items, ?_⟩
        rw [itemTokens, List.append_assoc, List.append_assoc]
        exact nextElement_inl_sound hitem (ht.append hitems)

end List

namespace Record

/-- A member of an object, taken in by its key: it is passed over if the key names no field, and
refused if its field was read before. -/
def step (r : Record α) (p : Partial α) (key : String) (t : Tree) : Option (Partial α) :=
  match r.field? key with
  | none => some p
  | some f =>
    if f.name ∈ p.seen then none
    else (f.value.on t).map fun set => ⟨f.name :: p.seen, set p.value⟩

theorem asObject_on_cons (r : Record α) (p : Partial α) (k : Spelling) (t : Tree)
    (ms : List (Spelling × Tree)) : r.asObject.on p ((k, t) :: ms) =
      k.text?.bind fun key => (r.step p key t).bind fun q => r.asObject.on q ms := by
  rw [Members.on]
  refine congrArg k.text?.bind (funext fun key => ?_)
  rw [step]
  simp only [Record.asObject, List.contains_iff_mem]
  cases hf : r.field? key with
  | none => simp [Except.toOption, means_anything.on_eq]
  | some f =>
    dsimp only
    split
    · rfl
    · simp [Except.toOption]

/-- What a record is of a value. -/
def on (r : Record α) : Tree → Option α
  | .object ms => (r.asObject.on ⟨[], r.blank⟩ ms).bind fun p => (r.finish p).toOption
  | .list items => fieldsOn r.blank r.fields items
  | _ => none

variable {r : Record α}

/-- All fields are read by their trees. -/
def AllMean (r : Record α) : Prop := ∀ f ∈ r.fields, Means f.value f.value.on

theorem AllMean.asObject (h : r.AllMean) : r.asObject.AllMean := by
  intro p key reader hmember
  simp only [Record.asObject] at hmember
  split at hmember
  · cases hmember
    exact (means_anything.map _).on
  · rename_i f hf
    split at hmember
    · cases hmember
    · cases hmember
      exact ((h f (List.mem_of_find?_eq_some hf)).map _).on

theorem means (h : r.AllMean) : Means r.reader r.on where
  spelled {t s u} hs hu := by
    obtain ⟨b, v, hv, hkind⟩ := hs.first
    rw [Record.reader, read_atByte_of hv]
    cases t with
    | object ms =>
      obtain ⟨rfl, hms⟩ := hs.object hv
      rw [if_pos rfl]
      exact Members.whole_spelled h.asObject hms
    | list items =>
      obtain ⟨w, hw, hitems⟩ := hs.skipBlank_eq
      have hopen : skipBlank s = 0x5B :: w := hw
      obtain ⟨rfl, rfl⟩ := List.cons_eq_cons.1 (hv.symm.trans hopen)
      rw [if_neg (by decide), if_pos rfl]
      exact fromList_spelled h hitems
    | boolean x =>
      rw [if_neg (by rintro rfl; cases x <;> cases hkind),
        if_neg (by rintro rfl; cases x <;> cases hkind)]
      rfl
    | _ =>
      rw [if_neg (by rintro rfl; cases hkind), if_neg (by rintro rfl; cases hkind)]
      rfl
  sound {s u a} hread := by
    obtain ⟨b, v, hv, hread⟩ := atByte_ok hread
    split at hread
    · rename_i hb
      obtain ⟨ms, hms⟩ := Members.whole_sound h.asObject hread
      exact ⟨.object ms, .of_front _ (hv.trans (congrArg (· :: v) hb)) hms⟩
    split at hread
    · rename_i hb
      obtain ⟨items, hitems⟩ := fromList_sound h hread
      exact ⟨.list items, .of_front _ (hv.trans (congrArg (· :: v) hb)) hitems⟩
    · cases hread

/-! ### What the members and the items of a record are -/

/-- The field that a key names. -/
def fieldOf? (r : Record α) (k : Spelling) : Option (Field α) := k.text?.bind r.field?

theorem fieldOf?_plain (r : Record α) (name : String) (h) :
    r.fieldOf? (.plain name h) = r.field? name := by
  rw [fieldOf?, Spelling.text?_plain, Option.bind_some]

theorem asObject_on_field {p : Partial α} {k : Spelling} {t : Tree} {f : Field α} {set : α → α}
    (hf : r.fieldOf? k = some f) (hnew : f.name ∉ p.seen) (hset : f.value.on t = some set)
    (ms : List (Spelling × Tree)) :
    r.asObject.on p ((k, t) :: ms) = r.asObject.on ⟨f.name :: p.seen, set p.value⟩ ms := by
  obtain ⟨key, hkey, hf⟩ := Option.bind_eq_some_iff.1 hf
  rw [asObject_on_cons, hkey, Option.bind_some, step, hf]
  dsimp only
  rw [if_neg hnew, hset]
  rfl

/-- Some members are taken in: their keys are texts, no two of them name one field, and the values
of fields are values of their types. -/
structure Taken (r : Record α) (before : List String) (ms : List (Spelling × Tree))
    (after : List String) : Prop where
  keys : ∀ m ∈ ms, m.1.text?.isSome
  values : ∀ m ∈ ms, ∀ f, r.fieldOf? m.1 = some f → f.name ∉ before ∧ (f.value.on m.2).isSome
  once : ms.Pairwise fun a b => ∀ f, r.fieldOf? a.1 = some f → r.fieldOf? b.1 ≠ some f
  seen : ∀ name ∈ after, name ∈ before ∨ ∃ m ∈ ms, ∃ f, r.fieldOf? m.1 = some f ∧ f.name = name

theorem taken_of_on {p q : Partial α} {ms : List (Spelling × Tree)}
    (h : r.asObject.on p ms = some q) : r.Taken p.seen ms q.seen := by
  induction ms generalizing p with
  | nil =>
    cases h
    exact ⟨nofun, nofun, .nil, fun name hname => .inl hname⟩
  | cons m ms ih =>
    obtain ⟨k, t⟩ := m
    rw [asObject_on_cons] at h
    obtain ⟨key, hkey, h⟩ := Option.bind_eq_some_iff.1 h
    obtain ⟨p', hstep, h⟩ := Option.bind_eq_some_iff.1 h
    have hof : r.fieldOf? k = r.field? key := by rw [fieldOf?, hkey, Option.bind_some]
    have hms := ih h
    have hkeys : ∀ m ∈ (k, t) :: ms, m.1.text?.isSome :=
      List.forall_mem_cons.2 ⟨by rw [hkey]; rfl, hms.keys⟩
    rw [step] at hstep
    cases hf : r.field? key with
    | none =>
      rw [hf] at hstep hof
      cases hstep
      refine ⟨hkeys, List.forall_mem_cons.2 ⟨fun f hk => ?_, hms.values⟩,
        List.pairwise_cons.2 ⟨fun b _ f hk => ?_, hms.once⟩, fun name hname => ?_⟩
      · rw [hof] at hk
        cases hk
      · rw [hof] at hk
        cases hk
      · refine (hms.seen name hname).imp_right ?_
        rintro ⟨m, hm, f, hmf⟩
        exact ⟨m, List.mem_cons_of_mem _ hm, f, hmf⟩
    | some f =>
      rw [hf] at hstep hof
      dsimp only at hstep
      split at hstep
      · cases hstep
      rename_i hnew
      obtain ⟨set, hset, rfl⟩ := Option.map_eq_some_iff.1 hstep
      refine ⟨hkeys, List.forall_mem_cons.2 ⟨fun g hk => ?_, fun m hm g hk => ?_⟩,
        List.pairwise_cons.2 ⟨fun b hb g hk hb' => ?_, hms.once⟩, fun name hname => ?_⟩
      · rw [hof] at hk
        cases hk
        exact ⟨hnew, by rw [hset]; rfl⟩
      · obtain ⟨hnot, hon⟩ := hms.values m hm g hk
        exact ⟨fun hmem => hnot (List.mem_cons_of_mem _ hmem), hon⟩
      · rw [hof] at hk
        cases hk
        exact (hms.values b hb f hb').1 List.mem_cons_self
      · rcases hms.seen name hname with hseen | ⟨m, hm, g, hg⟩
        · rcases List.mem_cons.1 hseen with rfl | hseen
          · exact .inr ⟨(k, t), List.mem_cons_self, f, hof, rfl⟩
          · exact .inl hseen
        · exact .inr ⟨m, List.mem_cons_of_mem _ hm, g, hg⟩

/-- The record is the one before, or the last field taken in was put into it. -/
theorem value_of_on {p q : Partial α} {ms : List (Spelling × Tree)}
    (h : r.asObject.on p ms = some q) :
    q.value = p.value ∨ ∃ m ∈ ms, ∃ f set x, r.fieldOf? m.1 = some f ∧
      f.value.on m.2 = some set ∧ q.value = set x := by
  induction ms generalizing p with
  | nil =>
    cases h
    exact .inl rfl
  | cons m ms ih =>
    obtain ⟨k, t⟩ := m
    rw [asObject_on_cons] at h
    obtain ⟨key, hkey, h⟩ := Option.bind_eq_some_iff.1 h
    obtain ⟨p', hstep, h⟩ := Option.bind_eq_some_iff.1 h
    rcases ih h with hq | ⟨m, hm, hlast⟩
    · rw [step] at hstep
      split at hstep
      · cases hstep
        exact .inl hq
      · rename_i f hf
        split at hstep
        · cases hstep
        obtain ⟨set, hset, rfl⟩ := Option.map_eq_some_iff.1 hstep
        refine .inr ⟨(k, t), List.mem_cons_self, f, set, p.value, ?_, hset, hq⟩
        rw [fieldOf?, hkey, Option.bind_some, hf]
    · exact .inr ⟨m, List.mem_cons_of_mem _ hm, hlast⟩

/-- The last field taken in was put into the record. -/
theorem value_of_last {p q : Partial α} {ms ms' : List (Spelling × Tree)} {m : Spelling × Tree}
    {f : Field α} (h : r.asObject.on p (ms ++ m :: ms') = some q) (hf : r.fieldOf? m.1 = some f)
    (hlast : ∀ b ∈ ms', r.fieldOf? b.1 = none) :
    ∃ set x, f.value.on m.2 = some set ∧ q.value = set x := by
  induction ms generalizing p with
  | nil =>
    obtain ⟨k, t⟩ := m
    obtain ⟨key, hkey, hfield⟩ := Option.bind_eq_some_iff.1 hf
    rw [List.nil_append, asObject_on_cons, hkey, Option.bind_some] at h
    obtain ⟨p', hstep, h⟩ := Option.bind_eq_some_iff.1 h
    rw [step, hfield] at hstep
    dsimp only at hstep
    split at hstep
    · cases hstep
    obtain ⟨set, hset, rfl⟩ := Option.map_eq_some_iff.1 hstep
    rcases value_of_on h with hq | ⟨b, hb, g, _, _, hg, -⟩
    · exact ⟨set, p.value, hset, hq⟩
    · rw [hlast b hb] at hg
      cases hg
  | cons a ms ih =>
    obtain ⟨k, t⟩ := a
    rw [List.cons_append, asObject_on_cons] at h
    obtain ⟨key, -, h⟩ := Option.bind_eq_some_iff.1 h
    obtain ⟨p', -, h⟩ := Option.bind_eq_some_iff.1 h
    exact ih h

/-- Members of different fields are taken in if their values are values of the fields. -/
theorem exists_on {p : Partial α} {ms : List (Spelling × Tree)} (keys : ∀ m ∈ ms, m.1.text?.isSome)
    (values : ∀ m ∈ ms, ∀ f, r.fieldOf? m.1 = some f →
      f.name ∉ p.seen ∧ (f.value.on m.2).isSome)
    (apart : ms.Pairwise fun a b =>
      ∀ f g, r.fieldOf? a.1 = some f → r.fieldOf? b.1 = some g → f.name ≠ g.name) :
    ∃ q, r.asObject.on p ms = some q ∧ p.seen ⊆ q.seen ∧
      ∀ m ∈ ms, ∀ f, r.fieldOf? m.1 = some f → f.name ∈ q.seen := by
  induction ms generalizing p with
  | nil => exact ⟨p, rfl, List.Subset.refl _, nofun⟩
  | cons m ms ih =>
    obtain ⟨k, t⟩ := m
    obtain ⟨hkey, hkeys⟩ := List.forall_mem_cons.1 keys
    obtain ⟨hvalue, hvalues⟩ := List.forall_mem_cons.1 values
    obtain ⟨hfirst, hrest⟩ := List.pairwise_cons.1 apart
    obtain ⟨key, hkey⟩ := Option.isSome_iff_exists.1 hkey
    have hof : r.fieldOf? k = r.field? key := by rw [fieldOf?, hkey, Option.bind_some]
    cases hf : r.field? key with
    | none =>
      obtain ⟨q, hq, hbefore, hseen⟩ := ih hkeys hvalues hrest
      refine ⟨q, ?_, hbefore, List.forall_mem_cons.2 ⟨fun f hk => ?_, hseen⟩⟩
      · rw [asObject_on_cons, hkey, Option.bind_some, step, hf]
        exact hq
      · rw [hof, hf] at hk
        cases hk
    | some f =>
      have hk : r.fieldOf? k = some f := hof.trans hf
      obtain ⟨hnew, hset⟩ := hvalue f hk
      obtain ⟨set, hset⟩ := Option.isSome_iff_exists.1 hset
      obtain ⟨q, hq, hbefore, hseen⟩ := ih (p := ⟨f.name :: p.seen, set p.value⟩) hkeys
        (fun m hm g hg => by
          obtain ⟨hnot, hon⟩ := hvalues m hm g hg
          exact ⟨List.not_mem_cons_of_ne_of_not_mem (hfirst m hm f g hk hg).symm hnot, hon⟩) hrest
      obtain ⟨hname, hbefore⟩ := List.cons_subset.1 hbefore
      refine ⟨q, ?_, hbefore, List.forall_mem_cons.2 ⟨fun g hg => ?_, hseen⟩⟩
      · rw [asObject_on_field hk hnew hset]
        exact hq
      · rw [hk] at hg
        cases hg
        exact hname

theorem finish_of_seen {p : Partial α}
    (h : ∀ f ∈ r.fields, f.absence = .refused → f.name ∈ p.seen) : r.finish p = .ok p.value := by
  have hnone :
      (r.fields.find? fun f => f.absence == .refused && !p.seen.contains f.name) = none := by
    refine List.find?_eq_none.2 fun f hf hmissing => ?_
    obtain ⟨hneeded, hnot⟩ := Bool.and_eq_true_iff.1 hmissing
    simp [h f hf (beq_iff_eq.1 hneeded)] at hnot
  rw [finish, hnone]

theorem value_of_finish {p : Partial α} {a : α} (h : r.finish p = .ok a) : a = p.value := by
  unfold finish at h
  split at h
  · cases h
  · cases h
    rfl

theorem seen_of_finish {p : Partial α} {a : α} (h : r.finish p = .ok a) {f : Field α}
    (hf : f ∈ r.fields) (hneeded : f.absence = .refused) : f.name ∈ p.seen := by
  unfold finish at h
  split at h
  · cases h
  · rename_i hnone
    have := List.find?_eq_none.1 hnone f hf
    simpa [hneeded] using this

end Record

/-- The items of a list are values of the first fields, and the fields left out keep their
values. -/
theorem exists_fieldsOn_iff {x : α} {fs : List (Field α)} {items : List Tree} :
    (∃ a, fieldsOn x fs items = some a) ↔
      List.Forall₂ (fun f t => (f.value.on t).isSome) (fs.take items.length) items ∧
        ∀ f ∈ fs.drop items.length, f.absence = .kept := by
  induction fs generalizing x items with
  | nil =>
    cases items with
    | nil => simp [fieldsOn]
    | cons t items => simp [fieldsOn]
  | cons f fs ih =>
    cases items with
    | nil => simp [fieldsOn]
    | cons t items =>
      simp only [fieldsOn, List.length_cons, List.take_succ_cons, List.drop_succ_cons,
        List.forall₂_cons, and_assoc]
      cases hset : f.value.on t with
      | none => simp
      | some set => simpa using ih

end Sluice.Json
