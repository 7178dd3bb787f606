import Sluice.Proofs.Json.Tree

/-!
# Numbers as they are spelled

What is read of a number hangs on its spelling alone (`number_spelled`), as long as what comes after
it does not go on with a number (`Quiet`): it is `Numeral.value?`, which there is unless the number
is too large.  A number that is passed over need not fit (`skipNumber_spelled`).

The other way round, a number that is read could be passed over (`number_ok`), and one that
is passed over is spelled like one (`skipNumber_sound`).  A whole number has neither places nor a
power and is the number of its digits (`Numeral.value?_eq_whole`).
-/

namespace Sluice.Json

/-! ## Digits -/

/-- The bytes do not go on with a digit. -/
def NoDigit (s : List UInt8) : Prop := ∀ b, s.head? = some b → isDigit b = false

/-- The bytes do not go on with more of a number. -/
def Quiet (s : List UInt8) : Prop :=
  ∀ b, s.head? = some b → isDigit b = false ∧ b ≠ 0x2E ∧ b ≠ 0x65 ∧ b ≠ 0x45

theorem quiet_nil : Quiet [] := nofun

theorem Quiet.noDigit {s : List UInt8} (h : Quiet s) : NoDigit s := fun b hb => (h b hb).1

theorem quiet_of_isBlank {b : UInt8} (h : isBlank b = true) (s : List UInt8) : Quiet (b :: s) := by
  simp only [isBlank, Bool.or_eq_true, beq_iff_eq] at h
  rintro c ⟨⟩
  obtain ((rfl | rfl) | rfl) | rfl := h <;> exact ⟨rfl, by decide⟩

/-- A number may end where a value may. -/
theorem Stops.quiet {s : List UInt8} (h : Stops s) : Quiet s := by
  cases s with
  | nil => exact quiet_nil
  | cons b s =>
    by_cases hb : isBlank b = true
    · exact quiet_of_isBlank hb s
    · rw [Bool.not_eq_true] at hb
      rw [Stops, skipBlank_cons hb] at h
      rintro c ⟨⟩
      rcases h b rfl with rfl | rfl | rfl <;> exact ⟨rfl, by decide⟩

section Digits

variable {x s : List UInt8} {limit n : Nat}

theorem skipDigits_eq (hs : NoDigit s) : skipDigits s = s := by
  cases s with
  | nil => rfl
  | cons b s => rw [skipDigits, List.dropWhile_cons_of_neg (by simp [hs b rfl])]

theorem skipDigits_append (hx : ∀ c ∈ x, isDigit c = true) (hs : NoDigit s) :
    skipDigits (x ++ s) = s :=
  (List.dropWhile_append_of_pos hx).trans (skipDigits_eq hs)

theorem skipDigits_cons {b : UInt8} (hb : isDigit b = true) : skipDigits (b :: s) = skipDigits s :=
  List.dropWhile_cons_of_pos hb

theorem digitsBelow_append (limit n : Nat) (hx : ∀ c ∈ x, isDigit c = true) (hs : NoDigit s) :
    digitsBelow limit n (x ++ s) = ((digitsBelow limit n x).1, (digitsBelow limit n x).2 ++ s) := by
  induction x generalizing n with
  | nil =>
    cases s with
    | nil => rfl
    | cons b s => simp [digitsBelow, hs b rfl]
  | cons b x ih =>
    have ih := ih (n * 10 + (b.toNat - 0x30)) fun c hc => hx c (List.mem_cons_of_mem b hc)
    rw [List.cons_append, digitsBelow, digitsBelow]
    split
    · exact ih
    · rfl

theorem digitsBelow_suffix (limit n : Nat) (s : List UInt8) : (digitsBelow limit n s).2 <:+ s := by
  induction s generalizing n with
  | nil => exact List.nil_suffix
  | cons b s ih =>
    rw [digitsBelow]
    split
    · exact (ih _).trans (List.suffix_cons b s)
    · exact List.suffix_rfl

/-- The digits that are left are passed over like all of them. -/
theorem skipDigits_digitsBelow (limit n : Nat) (s : List UInt8) :
    skipDigits (digitsBelow limit n s).2 = skipDigits s := by
  induction s generalizing n with
  | nil => rfl
  | cons b s ih =>
    rw [digitsBelow]
    split
    · rename_i hb
      rw [Bool.and_eq_true] at hb
      rw [ih, skipDigits_cons hb.1]
    · rfl

theorem Digits.all (h : Digits x) : ∀ c ∈ x, isDigit c = true := by
  obtain ⟨hb, hx⟩ := h
  exact List.forall_mem_cons.2 ⟨hb, hx⟩

theorem Digits.exists_cons (h : Digits x) : ∃ b y, x = b :: y ∧ isDigit b = true := by
  obtain ⟨hb, -⟩ := h
  exact ⟨_, _, rfl, hb⟩

theorem digits_split {b : UInt8} (hb : isDigit b = true) (s : List UInt8) :
    ∃ x, Digits x ∧ b :: s = x ++ skipDigits s :=
  ⟨b :: s.takeWhile isDigit, .mk hb fun _ => List.mem_takeWhile_imp,
    congrArg (b :: ·) List.takeWhile_append_dropWhile.symm⟩

end Digits

section

variable {p : Bool} {m : Nat} {e : Int} {x y w s t : List UInt8} {v : Number}

theorem PowerForm.noDigit (h : PowerForm y) (hs : Quiet s) : NoDigit (y ++ s) := by
  cases h with
  | none => exact hs.noDigit
  | some he =>
    rintro b ⟨⟩
    rcases he with rfl | rfl <;> rfl

theorem PlacesForm.noDigit (h : PlacesForm x) (hy : PowerForm y) (hs : Quiet s) :
    NoDigit (x ++ (y ++ s)) := by
  cases h with
  | none => exact hy.noDigit hs
  | some => rintro b ⟨⟩; rfl

theorem PlacesForm.eq_nil_or_mem (h : PlacesForm x) : x = [] ∨ 0x2E ∈ x := by
  cases h with
  | none => exact .inl rfl
  | some => exact .inr List.mem_cons_self

theorem PowerForm.eq_nil_or_mem (h : PowerForm y) :
    y = [] ∨ ∃ e, (e = 0x65 ∨ e = 0x45) ∧ e ∈ y := by
  cases h with
  | none => exact .inl rfl
  | some he => exact .inr ⟨_, he, List.mem_cons_self⟩

/-! ## Numbers that are read -/

/-- What is read of these bytes hangs on them alone, and they are all taken. -/
def Settled (f : List UInt8 → Outcome Number) (x : List UInt8) : Prop :=
  ∃ o : Option Number, ∀ s, Quiet s → (f (x ++ s)).toOption = o.map (·, s)

theorem fraction_settled (p : Bool) (m : Nat) (e : Int) :
    ∃ o : Option Number, ∀ s, (fraction p m e s).toOption = o.map (·, s) := by
  unfold fraction
  cases scaled 8 (Float.ofNat m) e with
  | none => exact ⟨none, fun s => rfl⟩
  | some f => exact ⟨some _, fun s => rfl⟩

/-- A power after its sign. -/
theorem power_signed (p : Bool) (m : Nat) (e : Int) {sign : List UInt8}
    (hsign : sign = [] ∨ sign = [0x2B] ∨ sign = [0x2D]) :
    ∃ up : Bool, ∀ b t, isDigit b = true → power p m e (sign ++ b :: t) =
      match digitsBelow powerLimit 0 (b :: t) with
      | (k, []) => fraction p m (if up then e + k else e - k) []
      | (k, c :: u) =>
        if isDigit c then
          if m ≠ 0 ∧ up then .error (.here .numberRange u) else fraction p 0 0 (skipDigits u)
        else fraction p m (if up then e + k else e - k) (c :: u) := by
  rcases hsign with rfl | rfl | rfl
  · refine ⟨true, fun b t hb => ?_⟩
    have hplus : b ≠ 0x2B := by rintro rfl; cases hb
    have hminus : b ≠ 0x2D := by rintro rfl; cases hb
    rcases hk : digitsBelow powerLimit 0 (b :: t) with ⟨k, _ | ⟨c, u⟩⟩ <;>
      simp [power, hb, hplus, hminus, hk]
  · refine ⟨true, fun b t hb => ?_⟩
    rcases hk : digitsBelow powerLimit 0 (b :: t) with ⟨k, _ | ⟨c, u⟩⟩ <;> simp [power, hb, hk]
  · refine ⟨false, fun b t hb => ?_⟩
    rcases hk : digitsBelow powerLimit 0 (b :: t) with ⟨k, _ | ⟨c, u⟩⟩ <;> simp [power, hb, hk]

theorem power_settled (p : Bool) (m : Nat) (e : Int) {sign : List UInt8}
    (hsign : sign = [] ∨ sign = [0x2B] ∨ sign = [0x2D]) (hx : Digits x) :
    Settled (power p m e) (sign ++ x) := by
  obtain ⟨up, hup⟩ := power_signed p m e hsign
  obtain ⟨b, y, rfl, hb⟩ := hx.exists_cons
  have hleft := (digitsBelow_suffix powerLimit 0 (b :: y)).subset
  have hsplit {s : List UInt8} (hs : NoDigit s) := digitsBelow_append powerLimit 0 hx.all hs
  generalize digitsBelow powerLimit 0 (b :: y) = taken at hleft hsplit
  obtain ⟨k, left⟩ := taken
  cases left with
  | nil =>
    obtain ⟨o, ho⟩ := fraction_settled p m (if up then e + k else e - k)
    refine ⟨o, fun s hs => ?_⟩
    rw [List.append_assoc, List.cons_append, hup _ _ hb, ← List.cons_append, hsplit hs.noDigit,
      ← ho]
    cases s with
    | nil => rfl
    | cons c s => simp [hs.noDigit c rfl]
  | cons c left =>
    have hc := hx.all c (hleft List.mem_cons_self)
    have hskip {s : List UInt8} (hs : NoDigit s) : skipDigits (left ++ s) = s :=
      skipDigits_append (fun d hd => hx.all d (hleft (List.mem_cons_of_mem c hd))) hs
    by_cases hrange : m ≠ 0 ∧ up = true
    · refine ⟨none, fun s hs => ?_⟩
      rw [List.append_assoc, List.cons_append, hup _ _ hb, ← List.cons_append, hsplit hs.noDigit]
      simp only [List.cons_append, hc, if_true, if_pos hrange]
      rfl
    · obtain ⟨o, ho⟩ := fraction_settled p 0 0
      refine ⟨o, fun s hs => ?_⟩
      rw [List.append_assoc, List.cons_append, hup _ _ hb, ← List.cons_append, hsplit hs.noDigit]
      simp only [List.cons_append, hc, if_true, if_neg hrange, hskip hs.noDigit, ho]

theorem powerIfAny_settled (p : Bool) (m : Nat) (e : Int) (h : PowerForm y) :
    Settled (powerIfAny p m e) y := by
  cases h with
  | none =>
    obtain ⟨o, ho⟩ := fraction_settled p m e
    refine ⟨o, fun s hs => ?_⟩
    rw [List.nil_append, ← ho]
    cases s with
    | nil => rfl
    | cons b s =>
      obtain ⟨-, -, hb⟩ := hs b rfl
      rw [powerIfAny, if_neg (by simp [hb])]
  | some he hsign hx =>
    obtain ⟨o, ho⟩ := power_settled p m e hsign hx
    refine ⟨o, fun s hs => ?_⟩
    rw [List.cons_append, powerIfAny, if_pos he, ho s hs]

theorem places_settled (p : Bool) (m : Nat) (e : Int) (hx : Digits x) (hy : PowerForm y) :
    Settled (places p m e) (x ++ y) := by
  obtain ⟨b, z, rfl, hb⟩ := hx.exists_cons
  obtain ⟨o, ho⟩ := powerIfAny_settled p (digitsBelow wholeLimit m (b :: z)).1
    (e - ((b :: z).length - (digitsBelow wholeLimit m (b :: z)).2.length : Nat)) hy
  refine ⟨o, fun s hs => ?_⟩
  have hleft := fun d hd => hx.all d ((digitsBelow_suffix wholeLimit m (b :: z)).subset hd)
  have hrest := hy.noDigit hs
  have hlength : (b :: z ++ (y ++ s)).length -
      ((digitsBelow wholeLimit m (b :: z)).2 ++ (y ++ s)).length =
        (b :: z).length - (digitsBelow wholeLimit m (b :: z)).2.length := by
    simp only [List.length_append]
    omega
  have hplaces (t : List UInt8) : places p m e (b :: t) =
      powerIfAny p (digitsBelow wholeLimit m (b :: t)).1
        (e - ((b :: t).length - (digitsBelow wholeLimit m (b :: t)).2.length : Nat))
        (skipDigits (digitsBelow wholeLimit m (b :: t)).2) := by
    simp [places, hb]
  rw [List.append_assoc, List.cons_append, hplaces, ← List.cons_append,
    digitsBelow_append _ _ hx.all hrest, hlength, skipDigits_append hleft hrest, ho s hs]

theorem afterWhole_settled (p : Bool) (m : Nat) (hx : PlacesForm x) (hy : PowerForm y) :
    Settled (afterWhole p m) (x ++ y) := by
  cases hx with
  | none =>
    cases hy with
    | none =>
      refine ⟨some (afterWhole.wholeNumber p m), fun s hs => ?_⟩
      cases s with
      | nil => rfl
      | cons b s =>
        obtain ⟨-, hpoint, hb⟩ := hs b rfl
        simp [afterWhole, hb, Except.toOption]
    | some he hsign hx =>
      obtain ⟨o, ho⟩ := power_settled p m 0 hsign hx
      refine ⟨o, fun s hs => ?_⟩
      rw [← ho s hs]
      rcases he with rfl | rfl <;> rfl
  | some hx =>
    obtain ⟨o, ho⟩ := places_settled p m 0 hx hy
    exact ⟨o, fun s hs => by rw [← ho s hs]; rfl⟩

theorem afterLongWhole_settled (p : Bool) (m : Nat) (hw : ∀ c ∈ w, isDigit c = true)
    (hx : PlacesForm x) (hy : PowerForm y) : Settled (afterLongWhole p m) (w ++ (x ++ y)) := by
  cases hx with
  | none =>
    obtain ⟨o, ho⟩ := powerIfAny_settled p m (w.length : Nat) hy
    refine ⟨o, fun s hs => ?_⟩
    have hskip := skipDigits_append hw (hy.noDigit hs)
    have hlength : (w ++ (y ++ s)).length - (y ++ s).length = w.length := by
      rw [List.length_append, Nat.add_sub_cancel]
    have hpoint : ∀ t, y ++ s ≠ 0x2E :: t := by
      intro t ht
      cases hy with
      | none =>
        subst ht
        exact (hs _ rfl).2.1 rfl
      | some he =>
        obtain ⟨rfl, -⟩ := List.cons_eq_cons.1 ht
        simp at he
    rw [← ho s hs, List.nil_append, List.append_assoc, afterLongWhole, hskip]
    split
    · rename_i ht
      exact absurd ht (hpoint _)
    · rw [hlength]
  | @some x hx =>
    obtain ⟨o, ho⟩ := places_settled p m (w.length : Nat) hx hy
    refine ⟨o, fun s hs => ?_⟩
    have hskip : skipDigits (w ++ 0x2E :: (x ++ (y ++ s))) = 0x2E :: (x ++ (y ++ s)) :=
      skipDigits_append hw ((PlacesForm.some hx).noDigit hy hs)
    have hlength :
        (w ++ 0x2E :: (x ++ (y ++ s))).length - (x ++ (y ++ s)).length - 1 = w.length := by
      simp only [List.length_append, List.length_cons]
      omega
    rw [← ho s hs, List.append_assoc, List.append_assoc, List.append_assoc, List.cons_append,
      afterLongWhole, hskip]
    simp only [hlength]

theorem number_settled (p : Bool) (hw : WholeForm w) (hx : PlacesForm x) (hy : PowerForm y) :
    Settled (number p) (w ++ (x ++ y)) := by
  cases hw with
  | zero =>
    obtain ⟨o, ho⟩ := afterWhole_settled p 0 hx hy
    refine ⟨o, fun s hs => ?_⟩
    have hrest := hx.noDigit hy hs
    rw [← ho s hs, List.append_assoc, List.append_assoc, List.singleton_append, number.eq_def]
    generalize x ++ (y ++ s) = r at hrest
    cases r with
    | nil => rfl
    | cons c r => simp [hrest c rfl]
  | @digits b w hb hzero hw =>
    have hleft := fun d hd => hw d ((digitsBelow_suffix wholeLimit (b.toNat - 0x30) w).subset hd)
    have hsplit {s : List UInt8} (hs : NoDigit s) := digitsBelow_append wholeLimit
      (b.toNat - 0x30) hw hs
    generalize digitsBelow wholeLimit (b.toNat - 0x30) w = taken at hleft hsplit
    obtain ⟨k, left⟩ := taken
    cases left with
    | nil =>
      obtain ⟨o, ho⟩ := afterWhole_settled p k hx hy
      refine ⟨o, fun s hs => ?_⟩
      have hrest := hx.noDigit hy hs
      rw [← ho s hs, List.append_assoc, List.append_assoc, List.cons_append, number.eq_def]
      dsimp only
      rw [if_neg hzero, if_pos hb, hsplit hrest, List.nil_append]
      generalize x ++ (y ++ s) = r at hrest
      cases r with
      | nil => rfl
      | cons c r => simp [hrest c rfl]
    | cons c left =>
      obtain ⟨o, ho⟩ := afterLongWhole_settled p k hleft hx hy
      refine ⟨o, fun s hs => ?_⟩
      have hrest := hx.noDigit hy hs
      rw [← ho s hs, List.append_assoc, List.append_assoc, List.cons_append, number.eq_def]
      dsimp only
      rw [if_neg hzero, if_pos hb, hsplit hrest]
      simp [hleft c List.mem_cons_self]

/-- The number that is spelled, unless it is too large. -/
def Numeral.value? (n : Numeral) : Option Number :=
  (number (!n.negative) n.unsigned).toOption.map (·.1)

theorem number_spelled (n : Numeral) (hs : Quiet s) :
    (number (!n.negative) (n.unsigned ++ s)).toOption = n.value?.map (·, s) := by
  obtain ⟨o, ho⟩ := number_settled (!n.negative) n.wholeForm n.placesForm n.powerForm
  have hnil := ho [] quiet_nil
  rw [List.append_nil] at hnil
  rw [Numeral.value?, Numeral.unsigned, ho s hs, hnil]
  cases o <;> rfl

/-! ## Numbers that are passed over -/

theorem skipPower_signed {sign : List UInt8} (hsign : sign = [] ∨ sign = [0x2B] ∨ sign = [0x2D])
    {b : UInt8} (hb : isDigit b = true) (s : List UInt8) :
    skipPower (sign ++ b :: s) = .ok (skipDigits s) := by
  have hplus : b ≠ 0x2B := by rintro rfl; cases hb
  have hminus : b ≠ 0x2D := by rintro rfl; cases hb
  rcases hsign with rfl | rfl | rfl <;> simp [skipPower, hb, hplus, hminus]

theorem skipPower_form {sign : List UInt8} (hsign : sign = [] ∨ sign = [0x2B] ∨ sign = [0x2D])
    (hx : Digits x) (hs : NoDigit s) : skipPower (sign ++ (x ++ s)) = .ok s := by
  have hskip := skipDigits_append hx.all hs
  obtain ⟨b, y, rfl, hb⟩ := hx.exists_cons
  rw [List.cons_append, skipDigits_cons hb] at hskip
  rw [List.cons_append, skipPower_signed hsign hb, hskip]

theorem skipPowerIfAny_form (hy : PowerForm y) (hs : Quiet s) :
    skipPowerIfAny (y ++ s) = .ok s := by
  cases hy with
  | none =>
    cases s with
    | nil => rfl
    | cons b s =>
      obtain ⟨-, -, hb⟩ := hs b rfl
      rw [List.nil_append, skipPowerIfAny, if_neg (by simp [hb])]
  | some he hsign hx =>
    rw [List.cons_append, skipPowerIfAny, if_pos he, List.append_assoc,
      skipPower_form hsign hx hs.noDigit]

theorem skipFraction_form (hx : PlacesForm x) (hy : PowerForm y) (hs : Quiet s) :
    skipFraction (x ++ (y ++ s)) = .ok s := by
  have hpower := skipPowerIfAny_form hy hs
  cases hx with
  | none =>
    rw [List.nil_append, ← hpower]
    cases hy with
    | none =>
      cases s with
      | nil => rfl
      | cons b s =>
        obtain ⟨-, hpoint, -⟩ := hs b rfl
        simp [skipFraction, hpoint]
    | some he =>
      rcases he with rfl | rfl <;> simp [skipFraction]
  | some hx =>
    have hskip := skipDigits_append hx.all (hy.noDigit hs)
    obtain ⟨b, z, rfl, hb⟩ := hx.exists_cons
    rw [List.cons_append, skipDigits_cons hb] at hskip
    simp [skipFraction, hb, hskip, hpower]

theorem skipNumber_spelled (n : Numeral) (hs : Quiet s) : skipNumber (n.unsigned ++ s) = .ok s := by
  have hfraction := skipFraction_form n.placesForm n.powerForm hs
  have hrest := n.placesForm.noDigit n.powerForm hs
  rw [Numeral.unsigned, List.append_assoc, List.append_assoc]
  generalize n.places ++ (n.power ++ s) = r at hfraction hrest
  obtain ⟨-, w, -, -, hw, -, -⟩ := n
  dsimp only
  cases hw with
  | zero =>
    rw [List.singleton_append, skipNumber.eq_def]
    cases r with
    | nil => exact hfraction
    | cons c r => simp [hrest c rfl, hfraction]
  | digits hb hzero hw =>
    simp [skipNumber, hb, hzero, skipDigits_append hw hrest, hfraction]

/-! ### Whatever is passed over is spelled like a number -/

/-- A power is a sign, if it has one, and digits. -/
theorem power_form_or_error (s : List UInt8) :
    (∃ sign b t, (sign = [] ∨ sign = [0x2B] ∨ sign = [0x2D]) ∧ isDigit b = true ∧
        s = sign ++ b :: t) ∨
      (∃ f, skipPower s = .error f) ∧ ∀ p m e, ∃ f, power p m e s = .error f := by
  have hafter {b : UInt8} {s : List UInt8} (hb : b = 0x2B ∨ b = 0x2D) :
      (∃ c t, isDigit c = true ∧ s = c :: t) ∨
        (∃ f, skipPower (b :: s) = .error f) ∧ ∀ p m e, ∃ f, power p m e (b :: s) = .error f := by
    cases s with
    | nil => rcases hb with rfl | rfl <;> exact .inr ⟨⟨_, rfl⟩, fun _ _ _ => ⟨_, rfl⟩⟩
    | cons c t =>
      by_cases hc : isDigit c = true
      · exact .inl ⟨c, t, hc, rfl⟩
      · rcases hb with rfl | rfl <;> exact .inr (by simp [skipPower, power, hc])
  cases s with
  | nil => exact .inr ⟨⟨_, rfl⟩, fun _ _ _ => ⟨_, rfl⟩⟩
  | cons b s =>
    by_cases hb : b = 0x2B ∨ b = 0x2D
    · refine (hafter hb).imp_left ?_
      rintro ⟨c, t, hc, rfl⟩
      refine ⟨[b], c, t, .inr ?_, hc, rfl⟩
      exact hb.imp (congrArg ([·])) (congrArg ([·]))
    · by_cases hdigit : isDigit b = true
      · exact .inl ⟨[], b, s, .inl rfl, hdigit, rfl⟩
      · rw [not_or] at hb
        exact .inr (by simp [skipPower, power, hb, hdigit])

theorem skipPower_sound (h : skipPower s = .ok t) :
    ∃ sign x, (sign = [] ∨ sign = [0x2B] ∨ sign = [0x2D]) ∧ Digits x ∧ s = sign ++ (x ++ t) := by
  rcases power_form_or_error s with ⟨sign, b, r, hsign, hb, rfl⟩ | ⟨⟨f, hf⟩, -⟩
  · rw [skipPower_signed hsign hb] at h
    cases h
    obtain ⟨x, hx, hsplit⟩ := digits_split hb r
    exact ⟨sign, x, hsign, hx, by rw [hsplit]⟩
  · rw [hf] at h
    cases h

theorem skipPowerIfAny_sound (h : skipPowerIfAny s = .ok t) : ∃ y, PowerForm y ∧ s = y ++ t := by
  unfold skipPowerIfAny at h
  split at h
  · split at h
    · rename_i he
      obtain ⟨sign, x, hsign, hx, rfl⟩ := skipPower_sound h
      exact ⟨_, .some he hsign hx, by simp⟩
    · cases h
      exact ⟨[], .none, rfl⟩
  · cases h
    exact ⟨[], .none, rfl⟩

theorem skipFraction_sound (h : skipFraction s = .ok t) :
    ∃ x y, PlacesForm x ∧ PowerForm y ∧ s = x ++ (y ++ t) := by
  unfold skipFraction at h
  split at h
  · split at h
    · rename_i hb
      obtain ⟨y, hy, hrest⟩ := skipPowerIfAny_sound h
      obtain ⟨x, hx, hsplit⟩ := digits_split hb _
      exact ⟨_, y, .some hx, hy, by rw [hsplit, hrest]; rfl⟩
    · cases h
  · cases h
  · obtain ⟨y, hy, hrest⟩ := skipPowerIfAny_sound h
    exact ⟨[], y, .none, hy, hrest⟩

theorem skipNumber_sound (h : skipNumber s = .ok t) (negative : Bool) :
    ∃ n : Numeral, n.negative = negative ∧ s = n.unsigned ++ t := by
  have hforms : ∃ w x y, WholeForm w ∧ PlacesForm x ∧ PowerForm y ∧ s = w ++ (x ++ (y ++ t)) := by
    unfold skipNumber at h
    split at h
    · cases h
    rename_i b s
    split at h
    · rename_i hb
      subst hb
      split at h
      · split at h
        · cases h
        · obtain ⟨x, y, hx, hy, hrest⟩ := skipFraction_sound h
          exact ⟨_, x, y, .zero, hx, hy, by rw [hrest]; rfl⟩
      · cases h
        exact ⟨_, [], [], .zero, .none, .none, rfl⟩
    · rename_i hzero
      split at h
      · rename_i hb
        obtain ⟨x, y, hx, hy, hrest⟩ := skipFraction_sound h
        refine ⟨b :: s.takeWhile isDigit, x, y, .digits hb hzero fun _ => List.mem_takeWhile_imp,
          hx, hy, ?_⟩
        rw [← hrest, List.cons_append]
        exact congrArg (b :: ·) List.takeWhile_append_dropWhile.symm
      · cases h
  obtain ⟨w, x, y, hw, hx, hy, rfl⟩ := hforms
  exact ⟨⟨negative, w, x, y, hw, hx, hy⟩, rfl, by simp [Numeral.unsigned]⟩

/-! ### Whatever is read could be passed over -/

theorem fraction_ok (h : fraction p m e s = .ok (v, t)) : t = s ∧ ∀ k, v ≠ .whole k := by
  unfold fraction at h
  split at h
  · simp only [Except.ok.injEq, Prod.mk.injEq] at h
    refine ⟨h.2.symm, ?_⟩
    rintro k rfl
    cases h.1
  · cases h

theorem power_ok (h : power p m e s = .ok (v, t)) : skipPower s = .ok t ∧ ∀ k, v ≠ .whole k := by
  rcases power_form_or_error s with ⟨sign, b, r, hsign, hb, rfl⟩ | ⟨-, hpower⟩
  · obtain ⟨up, hup⟩ := power_signed p m e hsign
    have hleft := skipDigits_digitsBelow powerLimit 0 (b :: r)
    rw [skipDigits_cons hb] at hleft
    rw [hup b r hb] at h
    rw [skipPower_signed hsign hb, ← hleft]
    split at h
    · rename_i hk
      obtain ⟨rfl, hv⟩ := fraction_ok h
      exact ⟨by rw [hk]; rfl, hv⟩
    · rename_i k c u hk
      rw [hk]
      split at h
      · rename_i hc
        split at h
        · cases h
        · obtain ⟨rfl, hv⟩ := fraction_ok h
          exact ⟨by rw [skipDigits_cons hc], hv⟩
      · rename_i hc
        obtain ⟨rfl, hv⟩ := fraction_ok h
        refine ⟨?_, hv⟩
        rw [skipDigits, List.dropWhile_cons_of_neg hc]
  · obtain ⟨f, hf⟩ := hpower p m e
    rw [hf] at h
    cases h

theorem powerIfAny_ok (h : powerIfAny p m e s = .ok (v, t)) :
    skipPowerIfAny s = .ok t ∧ ∀ k, v ≠ .whole k := by
  unfold powerIfAny at h
  split at h
  · split at h
    · rename_i he
      rw [skipPowerIfAny, if_pos he]
      exact power_ok h
    · rename_i he
      obtain ⟨rfl, hv⟩ := fraction_ok h
      exact ⟨by rw [skipPowerIfAny, if_neg he], hv⟩
  · obtain ⟨rfl, hv⟩ := fraction_ok h
    exact ⟨rfl, hv⟩

theorem places_ok (h : places p m e s = .ok (v, t)) :
    skipFraction (0x2E :: s) = .ok t ∧ ∀ k, v ≠ .whole k := by
  unfold places at h
  split at h
  · cases h
  split at h
  · rename_i b r hb
    obtain ⟨hskip, hv⟩ := powerIfAny_ok h
    rw [skipDigits_digitsBelow, skipDigits_cons hb] at hskip
    exact ⟨by rw [skipFraction, if_pos hb, hskip], hv⟩
  · cases h

/-- A number that ends after its whole part is that number. -/
theorem afterWhole_ok (h : afterWhole p m s = .ok (v, t)) :
    skipFraction s = .ok t ∧ ∀ k, v = .whole k → t = s ∧ v = afterWhole.wholeNumber p m := by
  unfold afterWhole at h
  split at h
  · obtain ⟨hskip, hv⟩ := places_ok h
    exact ⟨hskip, fun k hk => absurd hk (hv k)⟩
  · rename_i b r hpoint
    split at h
    · rename_i he
      obtain ⟨hskip, hv⟩ := power_ok h
      refine ⟨?_, fun k hk => absurd hk (hv k)⟩
      rcases he with rfl | rfl <;> simp [skipFraction, skipPowerIfAny, hskip]
    · rename_i he
      cases h
      refine ⟨?_, fun _ _ => ⟨rfl, rfl⟩⟩
      have hb : b ≠ 0x2E := fun hb => hpoint hb
      simp [skipFraction, skipPowerIfAny, he, hb]
  · cases h
    exact ⟨rfl, fun _ _ => ⟨rfl, rfl⟩⟩

theorem afterLongWhole_ok (h : afterLongWhole p m s = .ok (v, t)) :
    skipFraction (skipDigits s) = .ok t ∧ ∀ k, v ≠ .whole k := by
  unfold afterLongWhole at h
  split at h
  · rename_i r hr
    rw [hr]
    exact places_ok h
  · rename_i r hpoint
    obtain ⟨hskip, hv⟩ := powerIfAny_ok h
    refine ⟨?_, hv⟩
    unfold skipFraction
    split
    · rename_i hr
      exact absurd hr (hpoint _)
    · rename_i hr
      exact absurd hr (hpoint _)
    · exact hskip

theorem number_ok (h : number p s = .ok (v, t)) : skipNumber s = .ok t := by
  rw [number.eq_def] at h
  split at h
  · cases h
  rename_i b s
  rw [skipNumber.eq_def]
  dsimp only
  split at h
  · rename_i hb
    rw [if_pos hb]
    split at h
    · split at h
      · cases h
      · rename_i hc
        simp only [if_neg hc]
        exact (afterWhole_ok h).1
    · cases h
      rfl
  · rename_i hzero
    rw [if_neg hzero]
    split at h
    · rename_i hb
      have hleft := skipDigits_digitsBelow wholeLimit (b.toNat - 0x30) s
      rw [if_pos hb, ← hleft]
      split at h
      · rename_i hk
        rw [hk]
        split at h
        · exact (afterLongWhole_ok h).1
        · rename_i hc
          rw [skipDigits, List.dropWhile_cons_of_neg hc]
          exact (afterWhole_ok h).1
      · rename_i hk
        rw [hk]
        exact (afterWhole_ok h).1
    · cases h

theorem number_sound (negative : Bool) (h : number (!negative) s = .ok (v, t)) :
    ∃ n : Numeral, n.negative = negative ∧ s = n.unsigned ++ t :=
  skipNumber_sound (number_ok h) negative

/-! ## Whole numbers -/

/-- The number that digits spell, after some number already spelled. -/
def natural (start : Nat) (x : List UInt8) : Nat :=
  x.foldl (fun k b => k * 10 + (b.toNat - 0x30)) start

/-- The digits taken in are the front of the bytes, and their number is the one taken in. -/
theorem digitsBelow_split (limit k : Nat) (s : List UInt8) :
    ∃ x, (∀ c ∈ x, isDigit c = true) ∧ s = x ++ (digitsBelow limit k s).2 ∧
      (digitsBelow limit k s).1 = natural k x := by
  induction s generalizing k with
  | nil => exact ⟨[], nofun, rfl, rfl⟩
  | cons b s ih =>
    rw [digitsBelow]
    split
    · rename_i hb
      rw [Bool.and_eq_true] at hb
      obtain ⟨x, hx, hs, hk⟩ := ih (k * 10 + (b.toNat - 0x30))
      exact ⟨b :: x, List.forall_mem_cons.2 ⟨hb.1, hx⟩, congrArg (b :: ·) hs, hk⟩
    · exact ⟨[], nofun, rfl, rfl⟩

/-- The negative of zero is no whole number. -/
theorem wholeNumber_eq_whole {k : Int} (h : afterWhole.wholeNumber p m = .whole k) :
    k = (if p then (m : Int) else -m) ∧ (p = false → k ≠ 0) := by
  unfold afterWhole.wholeNumber at h
  split at h
  · rename_i hp
    cases h
    exact ⟨by rw [if_pos hp], fun hp' => absurd (hp.symm.trans hp') (by decide)⟩
  · rename_i hp
    split at h
    · cases h
    · rename_i hm
      cases h
      exact ⟨by rw [if_neg hp], fun _ => by omega⟩

theorem number_whole {k : Int} (h : number p s = .ok (.whole k, t)) :
    ∃ w, (∀ c ∈ w, isDigit c = true) ∧ s = w ++ t ∧
      k = (if p then (natural 0 w : Int) else -natural 0 w) ∧ (p = false → k ≠ 0) := by
  rw [number.eq_def] at h
  split at h
  · cases h
  rename_i b s
  split at h
  · rename_i hb
    subst hb
    have hafter : afterWhole p 0 s = .ok (.whole k, t) := by
      split at h
      · split at h
        · cases h
        · exact h
      · exact h
    obtain ⟨rfl, hk⟩ := (afterWhole_ok hafter).2 k rfl
    exact ⟨[0x30], List.forall_mem_singleton.2 rfl, rfl, wholeNumber_eq_whole hk.symm⟩
  · split at h
    · rename_i hb
      obtain ⟨x, hx, hs, hvalue⟩ := digitsBelow_split wholeLimit (b.toNat - 0x30) s
      have hw : natural 0 (b :: x) = natural (b.toNat - 0x30) x := by simp [natural]
      have hafter :
          afterWhole p (natural 0 (b :: x)) (digitsBelow wholeLimit (b.toNat - 0x30) s).2 =
            .ok (.whole k, t) := by
        rw [hw, ← hvalue]
        split at h
        · rename_i hk
          rw [hk]
          split at h
          · exact absurd rfl ((afterLongWhole_ok h).2 k)
          · exact h
        · rename_i hk
          rw [hk]
          exact h
      obtain ⟨ht, hk⟩ := (afterWhole_ok hafter).2 k rfl
      refine ⟨b :: x, List.forall_mem_cons.2 ⟨hb, hx⟩, ?_, wholeNumber_eq_whole hk.symm⟩
      rw [ht, List.cons_append, ← hs]
    · cases h

/-- The whole part of a number, with its sign. -/
def Numeral.signed (n : Numeral) : Int :=
  if n.negative then -natural 0 n.whole else natural 0 n.whole

/-- A whole number is spelled by its digits alone. -/
theorem Numeral.value?_eq_whole {n : Numeral} {k : Int} (h : n.value? = some (.whole k)) :
    n.places = [] ∧ n.power = [] ∧ k = n.signed ∧ (n.negative = true → k ≠ 0) := by
  have hread := number_spelled n quiet_nil
  rw [List.append_nil, h] at hread
  cases hnumber : number (!n.negative) n.unsigned with
  | error f =>
    rw [hnumber] at hread
    cases hread
  | ok r =>
    rw [hnumber] at hread
    cases hread
    obtain ⟨w, hw, hwhole, hk, hzero⟩ := number_whole hnumber
    rw [List.append_nil] at hwhole
    have hplaces : n.places = [] := by
      rcases n.placesForm.eq_nil_or_mem with hnil | hpoint
      · exact hnil
      · exact absurd (hw 0x2E (by simp [← hwhole, Numeral.unsigned, hpoint])) (by decide)
    have hpower : n.power = [] := by
      rcases n.powerForm.eq_nil_or_mem with hnil | ⟨e, he, hmem⟩
      · exact hnil
      · refine absurd (hw e (by simp [← hwhole, Numeral.unsigned, hmem])) ?_
        rcases he with rfl | rfl <;> decide
    have hdigits : n.unsigned = n.whole := by simp [Numeral.unsigned, hplaces, hpower]
    refine ⟨hplaces, hpower, ?_, fun hn => hzero (by rw [hn]; rfl)⟩
    rw [hk, ← hwhole, hdigits, signed]
    cases n.negative <;> rfl

theorem le_natural (k : Nat) (x : List UInt8) : k ≤ natural k x := by
  induction x generalizing k with
  | nil => exact Nat.le_refl k
  | cons b x ih =>
    have hnext : k ≤ k * 10 + (b.toNat - 0x30) := by omega
    exact Nat.le_trans hnext (ih _)

/-- Digits are all taken in if their number fits. -/
theorem digitsBelow_fits {limit k : Nat} {x : List UInt8} (hx : ∀ c ∈ x, isDigit c = true)
    (hle : natural k x ≤ limit) : digitsBelow limit k x = (natural k x, []) := by
  induction x generalizing k with
  | nil => rfl
  | cons b x ih =>
    obtain ⟨hb, hx⟩ := List.forall_mem_cons.1 hx
    have hfits := Nat.le_trans (le_natural (k * 10 + (b.toNat - 0x30)) x) hle
    rw [digitsBelow, hb, Bool.true_and, if_pos (decide_eq_true hfits)]
    exact ih hx hle

theorem number_fits {w : List UInt8} (hw : WholeForm w) (hle : natural 0 w ≤ wholeLimit) :
    number p w = .ok (afterWhole.wholeNumber p (natural 0 w), []) := by
  cases hw with
  | zero => rfl
  | @digits b x hb hzero hx =>
    have hnatural : natural 0 (b :: x) = natural (b.toNat - 0x30) x := by simp [natural]
    rw [hnatural] at hle ⊢
    rw [number.eq_def]
    dsimp only
    rw [if_neg hzero, if_pos hb, digitsBelow_fits hx hle]
    rfl

/-- Digits alone spell a whole number, if it fits and is not the negative of zero. -/
theorem Numeral.value?_whole {n : Numeral} (hplaces : n.places = []) (hpower : n.power = [])
    (hleast : -9223372036854775808 ≤ n.signed) (hmost : n.signed ≤ wholeLimit)
    (hzero : n.negative = true → n.signed ≠ 0) : n.value? = some (.whole n.signed) := by
  have hdigits : n.unsigned = n.whole := by simp [Numeral.unsigned, hplaces, hpower]
  have hlimit : wholeLimit = 18446744073709551615 := rfl
  rw [signed] at hleast hmost hzero ⊢
  rw [value?, hdigits]
  cases hn : n.negative with
  | false =>
    rw [hn] at hmost
    rw [number_fits n.wholeForm (by simpa using hmost)]
    rfl
  | true =>
    simp only [hn, if_true] at hleast hzero ⊢
    have hpos := hzero trivial
    rw [number_fits n.wholeForm (by omega)]
    simp only [Except.toOption, Option.map_some, Bool.not_true, afterWhole.wholeNumber]
    rw [if_neg (by decide), if_neg (by omega)]

end

end Sluice.Json
