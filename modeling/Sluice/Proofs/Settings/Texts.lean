import Sluice.Proofs.Settings.Loading

/-!
# Texts in the environment

A setting that is a text can be given by its own variable or by one whose name spells its place.
The first is taken as it is.  Of the second it is guessed what it stands for, and the guess is
written again, so that only some texts are kept (`IsKept`): those that look like nothing else, and
of truth values and numbers the ones that are already as they are written.
-/

namespace Sluice.Settings

variable {e : Environment} {files : Files} {file : List (String × Tree)} {s : Settings}

/-! ## Guessed and written again -/

/-- What is read of a text whose meaning is guessed. -/
def rewritten (t : String) : String :=
  match scalarOf t with
  | .nothing => ""
  | .boolean b => toString b
  | .integer n => toString n.toInt
  | .fraction x => plainStyle.text x
  | .text s => s

theorem scalarOf_cases (t : String) :
    (∃ b, scalarOf t = .boolean b) ∨ (∃ n, scalarOf t = .integer n) ∨
      (∃ x, scalarOf t = .fraction x) ∨ scalarOf t = .text t := by
  unfold scalarOf
  split
  · exact .inl ⟨_, rfl⟩
  · split
    · exact .inl ⟨_, rfl⟩
    · split
      · exact .inr (.inl ⟨_, rfl⟩)
      · cases Decimal.readFloat t.toList with
        | none => exact .inr (.inr (.inr rfl))
        | some x => exact .inr (.inr (.inl ⟨x, rfl⟩))

theorem readText_scalarOf (t : String) (source : Source) :
    (Tree.scalar (scalarOf t) source).readText = .ok (rewritten t) := by
  rcases scalarOf_cases t with ⟨b, h⟩ | ⟨n, h⟩ | ⟨x, h⟩ | h <;>
    simp [rewritten, h, Tree.readText]

/-- A text that is kept when its meaning is guessed. -/
structure IsKept (t : String) : Prop where
  /-- A truth value is in lower case. -/
  truth : lower t = "true" ∨ lower t = "false" → t = lower t
  /-- A whole number in 64 bits has no sign or zeros without need. -/
  whole : ∀ n, Tree.wholeNumber? true t = some n → Tree.isInt64 n = true → t = toString n
  /-- Any other number is as its double is written. -/
  fraction : (∀ n, Tree.wholeNumber? true t = some n → Tree.isInt64 n = false) →
    ∀ x, Decimal.readFloat t.toList = some x → t = plainStyle.text x

theorem toInt_ofInt_of_isInt64 {n : Int} (h : Tree.isInt64 n = true) :
    (Int64.ofInt n).toInt = n := by
  obtain ⟨hmin, hmax⟩ := by simpa only [Tree.isInt64, Bool.and_eq_true, decide_eq_true_eq] using h
  exact Int64.toInt_ofInt_of_le hmin (Int.lt_add_one_of_le hmax)

theorem rewritten_of_truth {t : String} (h : lower t = "true" ∨ lower t = "false") :
    rewritten t = lower t := by
  rcases h with h | h <;> simp only [rewritten, scalarOf, h] <;> rfl

theorem rewritten_of_whole {t : String} (h : ¬(lower t = "true" ∨ lower t = "false")) {n : Int}
    (hn : Tree.wholeNumber? true t = some n) (hsize : Tree.isInt64 n = true) :
    rewritten t = toString n := by
  obtain ⟨htrue, hfalse⟩ := not_or.mp h
  have hsome : (Tree.wholeNumber? true t).filter Tree.isInt64 = some n := by
    rw [hn, Option.filter_some_pos hsize]
  simp [rewritten, scalarOf, htrue, hfalse, hsome, toInt_ofInt_of_isInt64 hsize]

theorem rewritten_of_fraction {t : String} (h : ¬(lower t = "true" ∨ lower t = "false"))
    (hwhole : ∀ n, Tree.wholeNumber? true t = some n → Tree.isInt64 n = false) :
    rewritten t = ((Decimal.readFloat t.toList).map plainStyle.text).getD t := by
  obtain ⟨htrue, hfalse⟩ := not_or.mp h
  have hnone : (Tree.wholeNumber? true t).filter Tree.isInt64 = none := by
    rw [Option.filter_eq_none_iff]
    intro n hn
    simp [hwhole n hn]
  cases hx : Decimal.readFloat t.toList <;> simp [rewritten, scalarOf, htrue, hfalse, hnone, hx]

/-- Truth values in lower case are kept; they look like no number. -/
theorem IsKept.of_truth {t : String} (h : t = "true" ∨ t = "false") : IsKept t := by
  have hlower : t = lower t := (lower_eq_iff.mpr (by rcases h with rfl | rfl <;> rfl)).symm
  have hwhole : Tree.wholeNumber? true t = none := by rcases h with rfl | rfl <;> rfl
  have hfloat : (Decimal.readFloat t.toList).isNone := by rcases h with rfl | rfl <;> rfl
  exact ⟨fun _ => hlower, by simp [hwhole], by simp [Option.isNone_iff_eq_none.mp hfloat]⟩

theorem rewritten_eq_iff (t : String) : rewritten t = t ↔ IsKept t := by
  by_cases htruth : lower t = "true" ∨ lower t = "false"
  · rw [rewritten_of_truth htruth]
    exact ⟨fun h => .of_truth (h ▸ htruth), fun h => (h.truth htruth).symm⟩
  by_cases hwhole : ∃ n, Tree.wholeNumber? true t = some n ∧ Tree.isInt64 n = true
  · obtain ⟨n, hn, hsize⟩ := hwhole
    rw [rewritten_of_whole htruth hn hsize]
    refine ⟨fun h => ⟨fun ht => absurd ht htruth, fun m hm _ => ?_, fun hno => ?_⟩,
      fun h => (h.whole n hn hsize).symm⟩
    · exact Option.some.inj (hn.symm.trans hm) ▸ h.symm
    · exact absurd hsize (by simp [hno n hn])
  · have hno (n : Int) (hn : Tree.wholeNumber? true t = some n) : Tree.isInt64 n = false :=
      Bool.eq_false_iff.mpr fun hsize => hwhole ⟨n, hn, hsize⟩
    rw [rewritten_of_fraction htruth hno]
    refine ⟨fun h => ⟨fun ht => absurd ht htruth, fun m hm hsize => ?_, fun _ x hx => ?_⟩,
      fun h => ?_⟩
    · exact absurd hsize (by simp [hno m hm])
    · simpa [hx] using h.symm
    · cases hx : Decimal.readFloat t.toList with
      | none => rfl
      | some x => simpa using (h.fraction hno x hx).symm

/-! ## Settings that are texts -/

namespace Setting

/-- A setting that is a text, by this text. -/
def ofText? : (x : Setting) → Option (String → x.Value)
  | host | topic | compression | quotaUrl | denyListUrl | markerName => some id
  | username | password => some some
  | port | brokers | partition | requestTimeout | quotaTimeout | pageSize | refreshInterval
  | denyListTimeout | markerValue | ratePerMinute => none

variable {x : Setting} {f : String → x.Value}

theorem ofText?_injective (hf : x.ofText? = some f) : Function.Injective f := by
  cases x <;> cases hf <;> first | exact fun _ _ h => h | exact fun _ _ h => Option.some.inj h

theorem read_scalarOf (hf : x.ofText? = some f) (t : String) (source : Source) :
    x.read (.scalar (scalarOf t) source) = .ok (f (rewritten t)) := by
  have hoptional : Tree.readOptional Tree.readText (.scalar (scalarOf t) source) =
      .ok (some (rewritten t)) := by
    have hread := readText_scalarOf t source
    rcases scalarOf_cases t with ⟨b, h⟩ | ⟨n, h⟩ | ⟨x, h⟩ | h <;> rw [h] at hread ⊢ <;>
      simp [Tree.readOptional, hread, Except.map]
  cases x <;> cases hf <;> first | exact readText_scalarOf t source | exact hoptional

theorem read_own (hf : x.ofText? = some f) {v : Variable x.Value} (hv : x.ownVar? = some v)
    (t : String) : v.read t = .ok (f t) := by
  cases x <;> cases hf <;> cases hv <;> rfl

end Setting

/-- A setting that is a text, and that no variable gives yet, may be given by either variable, and
all other settings stay what they were.  Its own variable gives the text itself; a variable whose
name spells its place gives the text as it is written again, so that the two come to the same
exactly for texts that are kept. -/
theorem texts_in_variables (h : Loads e files file s) {x : Setting} {f : String → x.Value}
    (hf : x.ofText? = some f) (hown : x.own? e = none)
    (hnone : givenIn (variableLayer e) x.place = []) (t : String) :
    (∀ name, Spells name x.place → ∃ s', load (e.set name t) files = .ok s' ∧
      (∀ y ≠ x, y.get s' = y.get s) ∧ x.get s' = f (rewritten t) ∧ (x.get s' = f t ↔ IsKept t) ∧
      ∀ v, x.ownVar? = some v → ∃ s'', load (e.set v.name t) files = .ok s'' ∧
        x.get s'' = f t ∧ (s' = s'' ↔ IsKept t)) ∧
    Spells x.nestedName x.place := by
  refine ⟨fun name hname => ⟨_, (h.set_nested hname hown hnone t (x.read_scalarOf hf t _)).load_eq,
    fun y hy => x.get_set_of_ne hy _ s, x.get_set_self _ s, ?_, fun v hv =>
    ⟨_, (h.set_own hv t (x.read_own hf hv t)).load_eq, x.get_set_self _ s, ?_⟩⟩,
    x.spells_nestedName⟩
  · rw [x.get_set_self, (x.ofText?_injective hf).eq_iff, rewritten_eq_iff]
  · rw [← rewritten_eq_iff, ← (x.ofText?_injective hf).eq_iff]
    constructor
    · intro heq
      rw [← x.get_set_self (f (rewritten t)) s, heq, x.get_set_self]
    · rintro heq
      rw [heq]

/-- A word is kept. -/
theorem texts_in_variables_word :
    IsKept "pw" ∧ ∃ s, load (Environment.empty.set Setting.password.nestedName "pw") [] = .ok s ∧
      s.broker.password = some "pw" := by
  have hkept : IsKept "pw" := (rewritten_eq_iff "pw").mp (by
    rw [rewritten, scalarOf_of_text (by decide) (by decide) (by decide)])
  obtain ⟨s, hs, -, -, hiff, -⟩ :=
    (texts_in_variables Loads.builtIn (x := .password) rfl rfl rfl "pw").1 _
      Setting.password.spells_nestedName
  exact ⟨hkept, s, hs, hiff.mpr hkept⟩

/-- A password of digits is another one if it is given by a variable whose name spells its place. -/
theorem numeral_password_changed :
    load ⟨[("GATEWAY__REDPANDA__SASL_PASSWORD", "007")]⟩ [] =
        .ok (Setting.password.set (some "7") default) ∧
      load ⟨[("GATEWAY_REDPANDA_SASL_PASSWORD", "007")]⟩ [] =
        .ok (Setting.password.set (some "007") default) := by
  have hseven : rewritten "007" = "7" :=
    rewritten_of_whole (by simp only [lower_eq_iff]; decide) (n := 7) rfl (by decide)
  have hspells : Spells "GATEWAY__REDPANDA__SASL_PASSWORD" Setting.password.place :=
    spells_of rfl (by decide +kernel) (by decide +kernel) (by decide +kernel)
  exact ⟨(Loads.builtIn.set_nested hspells rfl rfl "007"
    (hseven ▸ Setting.password.read_scalarOf rfl "007" .environment)).load_eq,
    (Loads.builtIn.set_own (x := .password) rfl "007" rfl).load_eq⟩

end Sluice.Settings
