import Sluice.Proofs.Settings.Single

/-!
# Settings in the environment

A setting can be given by two variables: its own, if it has one, and any whose name spells its
place.  Here is what setting or removing one variable does to what the environment gives.
-/

namespace Sluice

/-! ## Variables set and removed -/

namespace Environment

variable {e : Environment} {name other value : String}

theorem lookup_setIn_of_ne (h : other ≠ name) (l : List (String × String)) :
    (setIn name value l).lookup other = l.lookup other := by
  induction l with
  | nil => simp [setIn, List.lookup_cons, beq_eq_false_iff_ne.mpr h]
  | cons v r ih =>
    obtain ⟨n, w⟩ := v
    by_cases hn : n = name
    · simp [setIn, hn, List.lookup_cons, beq_eq_false_iff_ne.mpr h]
    · simp [setIn, hn, List.lookup_cons, ih]

theorem get?_set_of_ne (h : other ≠ name) : (e.set name value).get? other = e.get? other :=
  lookup_setIn_of_ne h e.bindings

theorem get?_remove_of_ne (h : other ≠ name) : (e.remove name).get? other = e.get? other := by
  obtain ⟨l⟩ := e
  simp only [remove, get?]
  induction l with
  | nil => rfl
  | cons v r ih =>
    obtain ⟨n, w⟩ := v
    by_cases hn : n = name
    · simp [hn, List.lookup_cons, beq_eq_false_iff_ne.mpr h, ih]
    · simp [hn, List.lookup_cons, ih]

end Environment

namespace Settings

/-! ## What texts stand for -/

theorem lower_eq_iff {t w : String} : lower t = w ↔ t.toList.map lowered = w.toList := by
  rw [← String.toList_inj, lower, String.toList_map]

/-- A text that looks like nothing else stands for itself. -/
theorem scalarOf_of_text {t : String}
    (htruth : t.toList.map lowered ∉ ["true".toList, "false".toList])
    (hwhole : Tree.wholeNumber? true t = none) (hfloat : (Decimal.readFloat t.toList).isNone) :
    scalarOf t = .text t := by
  simp only [List.mem_cons, List.not_mem_nil, or_false, not_or, ← lower_eq_iff] at htruth
  simp [scalarOf, htruth, hwhole, Option.isNone_iff_eq_none.mp hfloat]

/-- A whole number in 64 bits stands for this number. -/
theorem scalarOf_of_whole {t : String} {n : Int}
    (htruth : t.toList.map lowered ∉ ["true".toList, "false".toList])
    (hwhole : (Tree.wholeNumber? true t).filter Tree.isInt64 = some n) :
    scalarOf t = .integer (Int64.ofInt n) := by
  simp only [List.mem_cons, List.not_mem_nil, or_false, not_or, ← lower_eq_iff] at htruth
  simp [scalarOf, htruth, hwhole]

/-! ## What variables give -/

/-- The name of a variable spells a place, in whatever letter case. -/
def Spells (name : String) (p : List String) : Prop :=
  (variableKey? name).map Path.read = some (p.map .key)

instance (name : String) (p : List String) : Decidable (Spells name p) :=
  inferInstanceAs (Decidable (_ = _))

theorem Tree.givenFrom_scalar (path : Path) (p : List String) (v : Scalar) (source : Source) :
    (Tree.scalar v source).givenFrom path p =
      if path = p.map .key then [.scalar v source] else [] := by
  induction path generalizing p with
  | nil => cases p <;> simp [givenFrom, given]
  | cons step path ih =>
    cases p with
    | nil => cases step <;> simp [givenFrom]
    | cons k p =>
      cases step with
      | key k' => by_cases hk : k' = k <;> simp [givenFrom, hk, ih]
      | index | fromEnd => simp [givenFrom]

/-- What one variable gives at a place. -/
def givenBy (v : String × String) (p : List String) : List Tree :=
  if Spells v.1 p then [.scalar (scalarOf v.2) .environment] else []

theorem givenBy_of_not {name : String} {p : List String} (h : ¬Spells name p) (value : String) :
    givenBy (name, value) p = [] :=
  if_neg h

theorem givenIn_variableLayer (e : Environment) (p : List String) :
    givenIn (variableLayer e) p = e.bindings.flatMap fun v => givenBy v p := by
  obtain ⟨l⟩ := e
  simp only [givenIn, variableLayer]
  induction l with
  | nil => rfl
  | cons v r ih =>
    cases hkey : variableKey? v.1 with
    | none => simp [givenBy, Spells, hkey, ih]
    | some key => simp [givenBy, Spells, hkey, ih, Tree.givenFrom_scalar]

variable {e : Environment} {name : String} {p : List String}

/-- A variable whose name does not spell a place can be set or removed without change there. -/
theorem givenIn_set_of_not (h : ¬Spells name p) (value : String) :
    givenIn (variableLayer (e.set name value)) p = givenIn (variableLayer e) p := by
  obtain ⟨l⟩ := e
  simp only [givenIn_variableLayer, Environment.set]
  induction l with
  | nil => simp [Environment.setIn, givenBy_of_not h]
  | cons v r ih =>
    obtain ⟨n, w⟩ := v
    by_cases hn : n = name
    · simp [Environment.setIn, hn, givenBy_of_not h]
    · simp [Environment.setIn, hn, ih]

theorem givenIn_remove_of_not (h : ¬Spells name p) :
    givenIn (variableLayer (e.remove name)) p = givenIn (variableLayer e) p := by
  obtain ⟨l⟩ := e
  simp only [givenIn_variableLayer, Environment.remove]
  induction l with
  | nil => rfl
  | cons v r ih =>
    obtain ⟨n, w⟩ := v
    by_cases hn : n = name
    · simp [hn, givenBy_of_not h, ih]
    · simp [hn, ih]

/-- A variable that spells a place at which nothing is given is not set yet. -/
theorem setIn_of_spells {l : List (String × String)} (h : Spells name p)
    (hnone : (l.flatMap fun v => givenBy v p) = []) (value : String) :
    Environment.setIn name value l = l ++ [(name, value)] := by
  induction l with
  | nil => rfl
  | cons v r ih =>
    obtain ⟨n, w⟩ := v
    obtain ⟨hv, hr⟩ := List.append_eq_nil_iff.mp hnone
    have hn : n ≠ name := by
      rintro rfl
      simp [givenBy, h] at hv
    simp [Environment.setIn, hn, ih hr]

/-- A first variable for a place comes last in the layer. -/
theorem variableLayer_set {key : String} (hkey : variableKey? name = some key)
    (h : Path.read key = p.map .key) (hnone : givenIn (variableLayer e) p = []) (value : String) :
    variableLayer (e.set name value) =
      variableLayer e ++ [(key, .scalar (scalarOf value) .environment)] := by
  obtain ⟨l⟩ := e
  rw [givenIn_variableLayer] at hnone
  have hspells : Spells name p := by simp [Spells, hkey, h]
  simp [variableLayer, Environment.set, setIn_of_spells hspells hnone value, hkey]

/-- A variable that is no member of the layer can be set without change of it. -/
theorem variableLayer_set_of_none (hkey : variableKey? name = none) (value : String) :
    variableLayer (e.set name value) = variableLayer e := by
  obtain ⟨l⟩ := e
  simp only [variableLayer, Environment.set]
  induction l with
  | nil => simp [Environment.setIn, hkey]
  | cons v r ih =>
    obtain ⟨n, w⟩ := v
    by_cases hn : n = name
    · simp [Environment.setIn, hn, hkey]
    · simp [Environment.setIn, hn, List.filterMap_cons, ih]

/-- A name spells the names that are left when its prefix is taken off and every two underscores are
a point. -/
theorem spells_of {name k : String} {names : List String} {cs : List Char}
    (hname : name.toList = cs) (hstart : variablePrefix.isPrefixOf (cs.map lowered) = true)
    (hrest : pointed ((cs.map lowered).drop variablePrefix.length) = k.toList ++ dotted names)
    (hnames : ∀ n ∈ k :: names, IsName n) : Spells name (k :: names) := by
  rw [Spells, variableKey?, lower, String.toList_map, hname, if_pos hstart, hrest,
    Option.map_some, Path.read_names k names String.toList_ofList hnames]

/-! ## The variables of a setting -/

namespace Setting

/-- The name of the variable of a setting in the layer: its place in upper case, with two
underscores before each part. -/
def nestedName (x : Setting) : String :=
  String.ofList
    ("GATEWAY".toList ++ x.place.flatMap fun k => '_' :: '_' :: k.toList.map Char.toUpper)

theorem spells_nestedName (x : Setting) : Spells x.nestedName x.place := by
  cases x <;>
    exact spells_of String.toList_ofList (by decide +kernel) (by decide +kernel) (by decide +kernel)

/-- The name of the variable that a setting has of its own is no path. -/
theorem variableKey?_own {x : Setting} {v : Variable x.Value} (h : x.ownVar? = some v) :
    variableKey? v.name = none := by
  simp only [variableKey?, lower, String.toList_map]
  cases x <;> cases h <;> decide +kernel

theorem not_spells_own {x : Setting} {v : Variable x.Value} (h : x.ownVar? = some v)
    (p : List String) : ¬Spells v.name p := by
  simp [Spells, variableKey?_own h]

/-- No two settings have the same variable of their own. -/
theorem eq_of_ownVar? {x y : Setting} {v : Variable x.Value} {w : Variable y.Value}
    (hx : x.ownVar? = some v) (hy : y.ownVar? = some w) (h : v.name = w.name) : x = y := by
  cases x <;> cases hx <;> cases y <;> cases hy <;> first | rfl | exact absurd h (by decide)

theorem place_injective {x y : Setting} (h : x.place = y.place) : x = y := by
  cases x <;> cases y <;> first | rfl | exact absurd h (by decide)

/-- A variable is named for a setting. -/
def IsNamedBy (x : Setting) (name : String) : Prop :=
  x.ownVar?.map (·.name) = some name ∨ Spells name x.place

theorem own?_congr {x : Setting} {e e' : Environment}
    (h : ∀ v, x.ownVar? = some v → e.get? v.name = e'.get? v.name) : x.own? e = x.own? e' := by
  unfold own?
  cases hx : x.ownVar? with
  | none => rfl
  | some v => simp [h v hx]

theorem own?_set_self {x : Setting} {v : Variable x.Value} (hx : x.ownVar? = some v)
    (e : Environment) (t : String) : x.own? (e.set v.name t) = some (v.read t) := by
  simp [own?, hx, Environment.get?_set_self]

theorem own?_set_of_ne {x : Setting} {name : String} (h : x.ownVar?.map (·.name) ≠ some name)
    (e : Environment) (t : String) : x.own? (e.set name t) = x.own? e :=
  own?_congr fun v hv =>
    Environment.get?_set_of_ne fun hn => h (by simp [hv, hn])

theorem own?_remove_of_ne {x : Setting} {name : String}
    (h : x.ownVar?.map (·.name) ≠ some name) (e : Environment) :
    x.own? (e.remove name) = x.own? e :=
  own?_congr fun v hv =>
    Environment.get?_remove_of_ne fun hn => h (by simp [hv, hn])

/-- A name that spells a place is not that of a setting's own variable. -/
theorem ownVar?_name_ne_of_spells {x : Setting} {name : String} {p : List String}
    (h : Spells name p) : x.ownVar?.map (·.name) ≠ some name := by
  intro hx
  obtain ⟨v, hv, rfl⟩ := Option.map_eq_some_iff.mp hx
  exact not_spells_own hv p h

end Setting

end Settings

end Sluice
