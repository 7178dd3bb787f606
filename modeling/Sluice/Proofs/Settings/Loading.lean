import Sluice.Proofs.Settings.Variables

/-!
# What is loaded

Of layers that give every setting whole and in its place (`Regular`), settings are loaded one by
one: what the layers have for a setting is read by itself, and then its own variable counts
(`load_regular`).  So a variable for a setting that none was set for changes this setting alone, and
loading does not fail for it unless its text cannot be read (`Loads.set_nested`, `Loads.set_own`).
-/

namespace Sluice.Settings

variable {e : Environment} {files : Files} {file : List (String × Tree)} {s : Settings}

/-! ## The steps of loading -/

theorem load_eq_ok :
    load e files = .ok s ↔
      ∃ file t u, fileLayer files = some file ∧ layers e file = some t ∧
        rootSection.read t = .ok u ∧ ∀ x : Setting, x.after e (x.get u) = .ok (x.get s) := by
  simp only [← overrides_foldlM, load]
  cases hfile : fileLayer files with
  | none => simp [throw, throwThe, MonadExceptOf.throw]
  | some file =>
    cases ht : layers e file with
    | none => simp [ht, throw, throwThe, MonadExceptOf.throw]
    | some t => simp [ht, bind_eq_ok, mapError_eq_ok]

/-- Without variables of single settings the settings are what is read from the layers. -/
theorem load_of_layers (hfile : fileLayer files = some file) (hown : ∀ x : Setting, x.own? e = none)
    (h : ∃ t, layers e file = some t ∧ rootSection.read t = .ok s) : load e files = .ok s := by
  obtain ⟨t, ht, hs⟩ := h
  exact load_eq_ok.mpr ⟨file, t, s, hfile, ht, hs, fun x => by rw [Setting.after, hown]; rfl⟩

/-- What a setting has that is given nowhere. -/
def Setting.builtIn (x : Setting) : Tree :=
  ((Tree.ofJson default.toJson).at? x.place).getD .empty

theorem Setting.at?_default (x : Setting) :
    (Tree.ofJson default.toJson).at? x.place = some x.builtIn := by
  cases x <;> rfl

theorem Setting.read_builtIn (x : Setting) : x.read x.builtIn = .ok (x.get default) := by
  cases x <;> rfl

/-! ## Regular layers -/

/-- A layer gives every setting at most once and as a whole, and every section as a table. -/
structure Regular (layer : List (String × Tree)) : Prop where
  fits : ∀ x : Setting, FitsIn layer x.place
  once : ∀ x : Setting, (givenIn layer x.place).length ≤ 1

/-- What the layers give for a setting, the higher one first. -/
def Setting.given? (x : Setting) (e : Environment) (file : List (String × Tree)) : Option Tree :=
  (givenIn (variableLayer e) x.place).getLast?.or (givenIn file x.place).getLast?

/-- A setting as the layers have it. -/
def Setting.fromLayers (x : Setting) (e : Environment) (file : List (String × Tree)) :
    Except Failure x.Value :=
  match x.given? e file with
  | some t => x.read t
  | none => .ok (x.get default)

/-- The settings that are read from regular layers. -/
theorem read_layers_eq_ok (he : Regular (variableLayer e)) (hf : Regular file) {t : Tree}
    (ht : layers e file = some t) :
    rootSection.read t = .ok s ↔ ∀ x : Setting, x.fromLayers e file = .ok (x.get s) := by
  have hplace (x : Setting) : t.at? x.place = some ((x.given? e file).getD x.builtIn) := by
    obtain ⟨u, hu, ht⟩ := Option.bind_eq_some_iff.mp ht
    rw [at?_layer (he.fits x) ht, at?_layer (hf.fits x) hu, x.at?_default, ← Option.or_assoc]
    exact Option.or_some
  rw [rootSection_read hplace]
  refine forall_congr' fun x => ?_
  unfold Setting.fromLayers
  cases x.given? e file with
  | none => simp [Setting.read_builtIn]
  | some => rfl

/-- The settings that are loaded from regular layers. -/
theorem load_regular (hfile : fileLayer files = some file) (he : Regular (variableLayer e))
    (hf : Regular file) :
    load e files = .ok s ↔ (layers e file).isSome ∧
      ∃ u : Settings, ∀ x : Setting, x.fromLayers e file = .ok (x.get u) ∧
        x.after e (x.get u) = .ok (x.get s) := by
  rw [load_eq_ok]
  constructor
  · rintro ⟨file', t, u, hfile', ht, hu, hs⟩
    obtain rfl := Option.some.inj (hfile.symm.trans hfile')
    exact ⟨by simp [ht], u, fun x => ⟨(read_layers_eq_ok he hf ht).mp hu x, hs x⟩⟩
  · rintro ⟨ht, u, hu⟩
    obtain ⟨t, ht⟩ := Option.isSome_iff_exists.mp ht
    exact ⟨file, t, u, hfile, ht, (read_layers_eq_ok he hf ht).mpr fun x => (hu x).1,
      fun x => (hu x).2⟩

/-- Settings are loaded from regular layers. -/
structure Loads (e : Environment) (files : Files) (file : List (String × Tree)) (s : Settings) :
    Prop where
  /-- What the file of settings is read as. -/
  file_eq : fileLayer files = some file
  environment : Regular (variableLayer e)
  regular : Regular file
  load_eq : load e files = .ok s

/-! ## One more variable -/

theorem fitsFrom_place (x y : Setting) (v : Scalar) (source : Source) :
    (Tree.scalar v source).FitsFrom (x.place.map .key) y.place := by
  cases x <;> cases y <;> simp [Setting.place, Tree.FitsFrom, Tree.Fits]

/-- A layer with one more member that gives one setting. -/
theorem givenIn_concat {x : Setting} {key : String} (hkey : Path.read key = x.place.map .key)
    (layer : List (String × Tree)) (v : Scalar) (source : Source) (y : Setting) :
    givenIn (layer ++ [(key, .scalar v source)]) y.place =
      givenIn layer y.place ++ if y = x then [.scalar v source] else [] := by
  have hiff : x.place.map Step.key = y.place.map Step.key ↔ y = x := by
    rw [List.map_inj_right fun _ _ h => Step.key.inj h]
    exact ⟨fun h => (Setting.place_injective h).symm, fun h => h ▸ rfl⟩
  simp [givenIn, Tree.givenFrom_scalar, hkey, hiff]

theorem Regular.concat {layer : List (String × Tree)} (h : Regular layer) {x : Setting}
    (hnone : givenIn layer x.place = []) {key : String} (hkey : Path.read key = x.place.map .key)
    (v : Scalar) (source : Source) : Regular (layer ++ [(key, .scalar v source)]) where
  fits y m hm := by
    rcases List.mem_append.mp hm with hm | hm
    · exact h.fits y m hm
    · obtain rfl := List.mem_singleton.mp hm
      exact hkey ▸ fitsFrom_place x y v source
  once y := by
    rw [givenIn_concat hkey]
    by_cases hy : y = x
    · subst hy; simp [hnone]
    · simpa [hy] using h.once y

theorem layer_concat_isSome {layer : List (String × Tree)} {t : Tree}
    (h : (t.layer layer).isSome) {key : String} {p : List String}
    (hkey : Path.read key = p.map .key) (v : Tree) : (t.layer (layer ++ [(key, v)])).isSome := by
  obtain ⟨u, hu⟩ := Option.isSome_iff_exists.mp h
  rw [layer_append, hu]
  simpa [Tree.layer, hkey] using Tree.put_names_isSome v u p

/-- A setting that no variable gives, given by a variable whose name spells its place: it is what
the variable is read as, and all others are what they were. -/
theorem Loads.set_nested (h : Loads e files file s) {x : Setting} {name : String}
    (hname : Spells name x.place) (hown : x.own? e = none)
    (hnone : givenIn (variableLayer e) x.place = []) (value : String) {a : x.Value}
    (ha : x.read (.scalar (scalarOf value) .environment) = .ok a) :
    Loads (e.set name value) files file (x.set a s) := by
  obtain ⟨key, hkey, hpath⟩ := Option.map_eq_some_iff.mp hname
  have hlayer := variableLayer_set hkey hpath hnone value
  obtain ⟨hsome, u, hu⟩ := (load_regular h.file_eq h.environment h.regular).mp h.load_eq
  have hregular : Regular (variableLayer (e.set name value)) :=
    hlayer ▸ h.environment.concat hnone hpath _ _
  have hown' (y : Setting) : y.own? (e.set name value) = y.own? e :=
    Setting.own?_set_of_ne (Setting.ownVar?_name_ne_of_spells hname) e value
  refine ⟨h.file_eq, hregular, h.regular, (load_regular h.file_eq hregular h.regular).mpr
    ⟨?_, x.set a u, fun y => ?_⟩⟩
  · obtain ⟨t, ht⟩ := Option.isSome_iff_exists.mp hsome
    obtain ⟨t', ht', ht⟩ := Option.bind_eq_some_iff.mp ht
    simpa [layers, ht', hlayer] using layer_concat_isSome (by simp [ht]) hpath _
  · have hgiven : y.given? (e.set name value) file =
        if y = x then some (.scalar (scalarOf value) .environment) else y.given? e file := by
      rw [Setting.given?, hlayer, givenIn_concat hpath]
      by_cases hy : y = x <;> simp [hy, Setting.given?]
    obtain ⟨hfrom, hafter⟩ := hu y
    by_cases hy : y = x
    · subst hy
      simp [Setting.fromLayers, hgiven, ha, Setting.after, hown', hown]
    · simp only [Setting.fromLayers, hgiven, if_neg hy, Setting.after, hown',
        Setting.get_set_of_ne hy]
      exact ⟨hfrom, hafter⟩

/-- A setting given by its own variable: it is what the variable stands for, and all others are what
they were. -/
theorem Loads.set_own (h : Loads e files file s) {x : Setting} {v : Variable x.Value}
    (hv : x.ownVar? = some v) (value : String) {a : x.Value} (ha : v.read value = .ok a) :
    Loads (e.set v.name value) files file (x.set a s) := by
  have hlayer := variableLayer_set_of_none (e := e) (Setting.variableKey?_own hv) value
  obtain ⟨hsome, u, hu⟩ := (load_regular h.file_eq h.environment h.regular).mp h.load_eq
  have hregular : Regular (variableLayer (e.set v.name value)) := hlayer ▸ h.environment
  refine ⟨h.file_eq, hregular, h.regular, (load_regular h.file_eq hregular h.regular).mpr
    ⟨by rwa [layers, hlayer], u, fun y => ?_⟩⟩
  have hgiven : y.given? (e.set v.name value) file = y.given? e file := by
    rw [Setting.given?, hlayer, Setting.given?]
  obtain ⟨hfrom, hafter⟩ := hu y
  refine ⟨by rwa [Setting.fromLayers, hgiven], ?_⟩
  by_cases hy : y = x
  · subst hy
    simp [Setting.after, Setting.own?_set_self hv, ha]
  · have hne : y.ownVar?.map (·.name) ≠ some v.name := by
      intro hn
      obtain ⟨w, hw, hname⟩ := Option.map_eq_some_iff.mp hn
      exact hy (Setting.eq_of_ownVar? hw hv hname)
    rw [Setting.after, Setting.own?_set_of_ne hne, Setting.get_set_of_ne hy]
    exact hafter

/-! ## No variables -/

theorem Regular.empty : Regular (variableLayer .empty) where
  fits _ _ hm := absurd hm List.not_mem_nil
  once _ := Nat.zero_le _

theorem Setting.own?_empty (x : Setting) : x.own? .empty = none := by
  cases x <;> rfl

/-- Without variables the settings are loaded that the file makes of the built-in ones. -/
theorem Loads.of_file (hfile : fileLayer files = some file) (hf : Regular file)
    (hsome : (layers .empty file).isSome)
    (h : ∀ x : Setting, x.fromLayers .empty file = .ok (x.get s)) : Loads .empty files file s :=
  ⟨hfile, .empty, hf, (load_regular hfile .empty hf).mpr
    ⟨hsome, s, fun x => ⟨h x, by rw [Setting.after, x.own?_empty]; rfl⟩⟩⟩

/-- With nothing given the built-in settings are loaded. -/
theorem Loads.builtIn : Loads .empty [] [] default :=
  .of_file rfl .empty rfl fun _ => rfl

end Sluice.Settings
