import Sluice.Proofs.Json.Tree

/-!
# Strings as they are spelled

What is read of a string hangs on its spelling alone, and not on what comes after it
(`string_spelled`): it is `Spelling.text?`, which there is unless half a pair of escapes stands
alone or the bytes are no text.  A string that is passed over needs neither (`skipString_spelled`).

The other way round, whatever is read or passed over as a string is spelled like one
(`string_sound`, `skipString_sound`).
-/

namespace Sluice.Json

/-! ## Strings that are read -/

theorem fourHex_form {a b c d : UInt8} (ha : (Text.hexValue? a).isSome)
    (hb : (Text.hexValue? b).isSome) (hc : (Text.hexValue? c).isSome)
    (hd : (Text.hexValue? d).isSome) :
    ∃ n, ∀ s, fourHex (a :: b :: c :: d :: s) = .ok (n, s) := by
  obtain ⟨a', ha⟩ := Option.isSome_iff_exists.1 ha
  obtain ⟨b', hb⟩ := Option.isSome_iff_exists.1 hb
  obtain ⟨c', hc⟩ := Option.isSome_iff_exists.1 hc
  obtain ⟨d', hd⟩ := Option.isSome_iff_exists.1 hd
  exact ⟨((a' * 16 + b') * 16 + c') * 16 + d', fun s => by simp only [fourHex, ha, hb, hc, hd]⟩

/-- A step in a string fails whatever comes after the string, or goes from one place in it to a
later one. -/
def Step (f : List UInt8 → Outcome (List UInt8)) (x : List UInt8) : Prop :=
  (∀ s, (f (x ++ 0x22 :: s)).toOption = none) ∨
    ∃ b y, StringForm y ∧ y.length ≤ x.length ∧ ∀ s, f (x ++ 0x22 :: s) = .ok (b, y ++ 0x22 :: s)

theorem secondHalf_step (n : Nat) {x : List UInt8} (h : StringForm x) : Step (secondHalf n) x := by
  cases h with
  | nil => exact .inl fun s => rfl
  | plain hb h =>
    refine .inl fun s => ?_
    rw [List.cons_append, secondHalf.eq_def]
    dsimp only
    rw [if_pos hb.2.1]
    rfl
  | @letter b x hb h =>
    refine .inl fun s => ?_
    have hne : b ≠ 0x75 := by
      rintro rfl
      cases hb
    rw [List.cons_append, List.cons_append, secondHalf, if_neg (by decide), if_pos hne]
    rfl
  | @number a b c d x ha hb hc hd h =>
    obtain ⟨low, hlow⟩ := fourHex_form ha hb hc hd
    have hsecond (s : List UInt8) : secondHalf n (0x5C :: 0x75 :: a :: b :: c :: d :: s) =
        if 0xDC00 ≤ low ∧ low ≤ 0xDFFF then
          .ok (codeBytes ((n - 0xD800) * 0x400 + (low - 0xDC00) + 0x10000), s)
        else .error (.here .strayHalf s) := by
      rw [secondHalf, if_neg (by decide), if_neg (by decide), hlow]
    by_cases hpair : 0xDC00 ≤ low ∧ low ≤ 0xDFFF
    · refine .inr ⟨codeBytes ((n - 0xD800) * 0x400 + (low - 0xDC00) + 0x10000), x, h, ?_,
        fun s => ?_⟩
      · simp only [List.length_cons]
        omega
      · simp only [List.cons_append, hsecond, if_pos hpair]
    · refine .inl fun s => ?_
      simp only [List.cons_append, hsecond, if_neg hpair]
      rfl

theorem escape_step {x : List UInt8} (h : StringForm (0x5C :: x)) : Step escape x := by
  cases h with
  | plain hb => exact absurd rfl hb.2.1
  | @letter b x hb h =>
    obtain ⟨c, hc⟩ := Option.isSome_iff_exists.1 hb
    refine .inr ⟨[c], x, h, by simp only [List.length_cons]; omega, fun s => ?_⟩
    rw [List.cons_append, escape, hc]
  | @number a b c d x ha hb hc hd h =>
    obtain ⟨n, hn⟩ := fourHex_form ha hb hc hd
    have hescape (s : List UInt8) : escape (0x75 :: a :: b :: c :: d :: s) =
        if 0xDC00 ≤ n ∧ n ≤ 0xDFFF then .error (.here .strayHalf s)
        else if n < 0xD800 ∨ 0xDBFF < n then .ok (codeBytes n, s)
        else secondHalf n s := by
      have hletter : letterEscape? 0x75 = none := rfl
      rw [escape, hletter]
      dsimp only
      rw [if_pos rfl, numberEscape, hn]
    by_cases hstray : 0xDC00 ≤ n ∧ n ≤ 0xDFFF
    · refine .inl fun s => ?_
      simp only [List.cons_append, hescape, if_pos hstray]
      rfl
    by_cases hsingle : n < 0xD800 ∨ 0xDBFF < n
    · refine .inr ⟨codeBytes n, x, h, by simp only [List.length_cons]; omega, fun s => ?_⟩
      simp only [List.cons_append, hescape, if_neg hstray, if_pos hsingle]
    · rcases secondHalf_step n h with hnone | ⟨w, y, hy, hlength, hok⟩
      · refine .inl fun s => ?_
        simp only [List.cons_append, hescape, if_neg hstray, if_neg hsingle, hnone]
      · refine .inr ⟨w, y, hy, by simp only [List.length_cons]; omega, fun s => ?_⟩
        simp only [List.cons_append, hescape, if_neg hstray, if_neg hsingle, hok]

theorem stringBytes_refused {s : List UInt8} (h : (escape s).toOption = none) (read : List UInt8) :
    (stringBytes read (0x5C :: s)).toOption = none := by
  rw [stringBytes, if_neg (by decide), if_pos rfl]
  split
  · rfl
  · rename_i hok
    rw [hok] at h
    cases h

/-- The bytes of a string hang on its spelling alone. -/
theorem stringBytes_form {x : List UInt8} (h : StringForm x) : ∃ o : Option (List UInt8),
    ∀ read s, (stringBytes read (x ++ 0x22 :: s)).toOption =
      o.map fun b => (read.reverse ++ b, s) := by
  generalize hn : x.length = n
  induction n using Nat.strongRecOn generalizing x with
  | ind n ih =>
    -- An escape may take a second escape with it, so the rest is any shorter spelling.
    have hescaped {y : List UInt8} (hx : x = 0x5C :: y) : ∃ o : Option (List UInt8),
        ∀ read s, (stringBytes read (x ++ 0x22 :: s)).toOption =
          o.map fun b => (read.reverse ++ b, s) := by
      subst hx
      simp only [List.length_cons] at hn
      rcases escape_step h with hnone | ⟨w, z, hz, hlength, hok⟩
      · exact ⟨none, fun read s => stringBytes_refused (hnone s) read⟩
      · obtain ⟨o, ho⟩ := ih z.length (by omega) hz rfl
        refine ⟨o.map (w ++ ·), fun read s => ?_⟩
        rw [List.cons_append, stringBytes_escape (hok s), ho]
        cases o <;> simp
    cases h with
    | nil =>
      refine ⟨some [], fun read s => ?_⟩
      rw [List.nil_append, stringBytes, if_pos rfl]
      simp [Except.toOption]
    | @plain b x hb h =>
      obtain ⟨o, ho⟩ := ih x.length (by simp only [List.length_cons] at hn; omega) h rfl
      refine ⟨o.map (b :: ·), fun read s => ?_⟩
      rw [List.cons_append, stringBytes, if_neg hb.1, if_neg hb.2.1, if_neg hb.2.2, ho]
      cases o <;> simp
    | letter => exact hescaped rfl
    | number => exact hescaped rfl

/-- The text of a string, if it spells one. -/
def Spelling.text? (x : Spelling) : Option String :=
  (Json.string (x.bytes ++ [0x22])).toOption.map (·.1)

theorem string_spelled (x : Spelling) (s : List UInt8) :
    (Json.string (x.bytes ++ 0x22 :: s)).toOption = x.text?.map (·, s) := by
  obtain ⟨o, ho⟩ := stringBytes_form x.form
  have key (s : List UInt8) : (Json.string (x.bytes ++ 0x22 :: s)).toOption =
      (o.bind Text.ofBytes?).map (·, s) := by
    have hbytes := ho [] s
    unfold Json.string
    cases hb : stringBytes [] (x.bytes ++ 0x22 :: s) with
    | error e =>
      rw [hb] at hbytes
      cases o with
      | none => rfl
      | some b => cases hbytes
    | ok p =>
      rw [hb] at hbytes
      cases o with
      | none => cases hbytes
      | some b =>
        cases hbytes
        dsimp only
        cases ht : Text.ofBytes? b <;> simp [ht, Except.toOption]
  rw [Spelling.text?, key, key]
  cases o.bind Text.ofBytes? <;> rfl

/-! ## Whatever is read is spelled like a string -/

theorem fourHex_sound {s t : List UInt8} {n : Nat} (h : fourHex s = .ok (n, t)) {x : List UInt8}
    (hx : StringForm x) : ∃ y, s = y ++ t ∧ StringForm (0x5C :: 0x75 :: (y ++ x)) := by
  unfold fourHex at h
  split at h
  · rename_i a b c d s
    split at h
    · rename_i ha hb hc hd
      cases h
      refine ⟨[a, b, c, d], rfl, ?_⟩
      exact .number (by simp [ha]) (by simp [hb]) (by simp [hc]) (by simp [hd]) hx
    · cases h
  · cases h

theorem secondHalf_sound {n : Nat} {s b t : List UInt8} (h : secondHalf n s = .ok (b, t))
    {x : List UInt8} (hx : StringForm x) : ∃ y, s = y ++ t ∧ StringForm (y ++ x) := by
  unfold secondHalf at h
  split at h
  · cases h
  split at h
  · cases h
  rename_i hslash
  split at h
  · cases h
  split at h
  · cases h
  rename_i hletter
  split at h
  · cases h
  rename_i hfour
  split at h
  · simp only [Except.ok.injEq, Prod.mk.injEq] at h
    rw [h.2] at hfour
    obtain ⟨y, rfl, hy⟩ := fourHex_sound hfour hx
    refine ⟨0x5C :: 0x75 :: y, ?_, hy⟩
    rw [Decidable.not_not.1 hslash, Decidable.not_not.1 hletter]
    rfl
  · cases h

theorem escape_sound {s b t : List UInt8} (h : escape s = .ok (b, t)) {x : List UInt8}
    (hx : StringForm x) : ∃ y, s = y ++ t ∧ StringForm (0x5C :: (y ++ x)) := by
  unfold escape at h
  split at h
  · cases h
  rename_i c s
  split at h
  · rename_i hletter
    cases h
    exact ⟨[c], rfl, .letter (by simp [hletter]) hx⟩
  split at h
  · rename_i hc
    subst hc
    unfold numberEscape at h
    split at h
    · cases h
    rename_i n u hfour
    split at h
    · cases h
    split at h
    · simp only [Except.ok.injEq, Prod.mk.injEq] at h
      rw [h.2] at hfour
      obtain ⟨y, rfl, hy⟩ := fourHex_sound hfour hx
      exact ⟨0x75 :: y, rfl, hy⟩
    · obtain ⟨z, rfl, hz⟩ := secondHalf_sound h hx
      obtain ⟨y, rfl, hy⟩ := fourHex_sound hfour hz
      exact ⟨0x75 :: (y ++ z), by simp, by simpa using hy⟩
  · cases h

theorem stringBytes_sound {read s b u : List UInt8} (h : stringBytes read s = .ok (b, u)) :
    ∃ x, StringForm x ∧ s = x ++ 0x22 :: u := by
  fun_induction stringBytes read s with
  | case1 => cases h
  | case2 =>
    cases h
    exact ⟨[], .nil, rfl⟩
  | case3 => cases h
  | case4 read s written t he hl _ ih =>
    obtain ⟨x, hx, rfl⟩ := ih h
    obtain ⟨y, rfl, hy⟩ := escape_sound he hx
    exact ⟨_, hy, by simp⟩
  | case5 => cases h
  | case6 read b s hquote hslash hcontrol ih =>
    obtain ⟨x, hx, rfl⟩ := ih h
    exact ⟨_, .plain ⟨hquote, hslash, hcontrol⟩ hx, rfl⟩

theorem string_sound {s u : List UInt8} {v : String} (h : Json.string s = .ok (v, u)) :
    ∃ x : Spelling, s = x.bytes ++ 0x22 :: u ∧ x.text? = some v := by
  have hx : ∃ x : Spelling, s = x.bytes ++ 0x22 :: u := by
    unfold Json.string at h
    split at h
    · cases h
    rename_i hbytes
    split at h
    · cases h
      obtain ⟨x, hx, rfl⟩ := stringBytes_sound hbytes
      exact ⟨⟨x, hx⟩, rfl⟩
    · cases h
  obtain ⟨x, rfl⟩ := hx
  have hread := string_spelled x u
  rw [h] at hread
  cases ht : x.text? with
  | none =>
    rw [ht] at hread
    cases hread
  | some v =>
    rw [ht] at hread
    cases hread
    exact ⟨x, rfl, ht⟩

/-! ## Strings that are passed over -/

theorem skipString_escape {s t : List UInt8} (h : skipEscape s = .ok t) :
    skipString (0x5C :: s) = skipString t := by
  rw [skipString, if_neg (by decide), if_pos rfl]
  split
  · rename_i he
    rw [h] at he
    cases he
  · rename_i he
    rw [h] at he
    cases he
    rfl

theorem skipString_form {x : List UInt8} (h : StringForm x) (s : List UInt8) :
    skipString (x ++ 0x22 :: s) = .ok s := by
  induction h with
  | nil => rw [List.nil_append, skipString, if_pos rfl]
  | plain hb _ ih =>
    rw [List.cons_append, skipString, if_neg hb.1, if_neg hb.2.1, if_neg hb.2.2, ih]
  | letter hb _ ih =>
    rw [List.cons_append, List.cons_append, skipString_escape, ih]
    rw [skipEscape, if_pos hb]
  | number ha hb hc hd _ ih =>
    obtain ⟨n, hn⟩ := fourHex_form ha hb hc hd
    simp only [List.cons_append]
    rw [skipString_escape, ih]
    rw [skipEscape, if_neg (by decide), if_pos rfl, hn]
    rfl

theorem skipString_spelled (x : Spelling) (s : List UInt8) :
    skipString (x.bytes ++ 0x22 :: s) = .ok s :=
  skipString_form x.form s

theorem skipEscape_sound {s t : List UInt8} (h : skipEscape s = .ok t) {x : List UInt8}
    (hx : StringForm x) : ∃ y, s = y ++ t ∧ StringForm (0x5C :: (y ++ x)) := by
  unfold skipEscape at h
  split at h
  · cases h
  rename_i c s
  split at h
  · rename_i hletter
    cases h
    exact ⟨[c], rfl, .letter hletter hx⟩
  split at h
  · rename_i hc
    subst hc
    obtain ⟨⟨n, u⟩, hfour, hu⟩ := map_eq_ok h
    cases hu
    obtain ⟨y, rfl, hy⟩ := fourHex_sound hfour hx
    exact ⟨0x75 :: y, rfl, hy⟩
  · cases h

theorem skipString_sound {s u : List UInt8} (h : skipString s = .ok u) :
    ∃ x : Spelling, s = x.bytes ++ 0x22 :: u := by
  fun_induction skipString s with
  | case1 => cases h
  | case2 =>
    cases h
    exact ⟨⟨[], .nil⟩, rfl⟩
  | case3 => cases h
  | case4 s t he hl _ ih =>
    obtain ⟨x, rfl⟩ := ih h
    obtain ⟨y, rfl, hy⟩ := skipEscape_sound he x.form
    exact ⟨⟨_, hy⟩, by simp⟩
  | case5 => cases h
  | case6 b s hquote hslash hcontrol ih =>
    obtain ⟨x, rfl⟩ := ih h
    exact ⟨⟨_, .plain ⟨hquote, hslash, hcontrol⟩ x.form⟩, rfl⟩

/-! ## Strings that stand for themselves -/

instance : DecidablePred IsPlain := fun b =>
  inferInstanceAs (Decidable (b ≠ 0x22 ∧ b ≠ 0x5C ∧ ¬b < 0x20))

theorem StringForm.of_plain {x : List UInt8} (h : ∀ b ∈ x, IsPlain b) : StringForm x := by
  induction x with
  | nil => exact .nil
  | cons b x ih =>
    exact .plain (h b List.mem_cons_self) (ih fun c hc => h c (List.mem_cons_of_mem b hc))

theorem all_plain {x : List UInt8} (h : (x.all fun b => IsPlain b) = true) : ∀ b ∈ x, IsPlain b :=
  fun b hb => of_decide_eq_true (List.all_eq_true.1 h b hb)

/-- A text that is spelled as it stands. -/
def Spelling.plain (x : String) (h : ((Text.bytes x).all fun b => IsPlain b) = true) : Spelling :=
  ⟨Text.bytes x, .of_plain (all_plain h)⟩

theorem Spelling.text?_plain (x : String) (h : ((Text.bytes x).all fun b => IsPlain b) = true) :
    (plain x h).text? = some x := by
  have hbytes : stringBytes [] (Text.bytes x ++ [0x22]) = .ok (Text.bytes x, []) := by
    rw [stringBytes_plain (all_plain h), stringBytes, if_pos rfl, List.append_nil,
      List.reverse_reverse]
  simp only [text?, plain, Json.string, hbytes, Text.ofBytes?_bytes]
  rfl

end Sluice.Json
