import Sluice.Proofs.Settings.Loading

/-!
# Which layer a setting comes from

Settings are given in layers: by variables of their own, by variables whose names spell their
places, by a file, and at last by what is built in.  In regular layers each setting is looked up by
itself, from the highest layer down (`Setting.Holds`), and what the layers give for other settings
has no part in it (`Setting.Agree`).  Layers that are not regular are merged otherwise: a section
that is no table, or an item of a list, takes more with it than it gives.
-/

namespace Sluice.Settings

variable {e e' : Environment} {files files' : Files} {file file' : List (String × Tree)}
  {s s' : Settings}

/-! ## Precedence -/

/-- A setting has the value of the highest layer that gives it. -/
inductive Setting.Holds (x : Setting) (e : Environment) (file : List (String × Tree)) :
    x.Value → Prop
  /-- The variable of the setting is set. -/
  | own {a : x.Value} (h : x.own? e = some (.ok a)) : Holds x e file a
  /-- A variable is set whose name has the path of the setting. -/
  | nested {a : x.Value} {t : Tree} (h : x.own? e = none)
      (hv : givenIn (variableLayer e) x.place = [t]) (ha : x.read t = .ok a) : Holds x e file a
  /-- The file gives the setting. -/
  | file {a : x.Value} {t : Tree} (h : x.own? e = none)
      (hv : givenIn (variableLayer e) x.place = []) (hf : givenIn file x.place = [t])
      (ha : x.read t = .ok a) : Holds x e file a
  | builtIn (h : x.own? e = none) (hv : givenIn (variableLayer e) x.place = [])
      (hf : givenIn file x.place = []) : Holds x e file (x.get default)

theorem eq_nil_or_singleton {α : Type} {l : List α} (h : l.length ≤ 1) :
    l = [] ∨ ∃ a, l = [a] := by
  match l, h with
  | [], _ => exact .inl rfl
  | [a], _ => exact .inr ⟨a, rfl⟩

theorem Loads.holds (h : Loads e files file s) (x : Setting) : x.Holds e file (x.get s) := by
  obtain ⟨-, u, hu⟩ := (load_regular h.file_eq h.environment h.regular).mp h.load_eq
  obtain ⟨hlayers, hafter⟩ := hu x
  cases hown : x.own? e with
  | some r =>
    rw [Setting.after, hown] at hafter
    exact .own (hown.trans (congrArg some hafter))
  | none =>
    have hget : x.get u = x.get s := by simpa [Setting.after, hown] using hafter
    rw [hget] at hlayers
    unfold Setting.fromLayers Setting.given? at hlayers
    obtain hv | ⟨t, hv⟩ := eq_nil_or_singleton (h.environment.once x)
    · obtain hf | ⟨t, hf⟩ := eq_nil_or_singleton (h.regular.once x)
      · have hdefault : x.get default = x.get s := by simpa [hv, hf] using hlayers
        exact hdefault ▸ .builtIn hown hv hf
      · exact .file hown hv hf (by simpa [hv, hf] using hlayers)
    · exact .nested hown hv (by simpa [hv] using hlayers)

/-- The layers give the same for a setting. -/
structure Setting.Agree (x : Setting) (e : Environment) (file : List (String × Tree))
    (e' : Environment) (file' : List (String × Tree)) : Prop where
  own : x.own? e = x.own? e'
  nested : givenIn (variableLayer e) x.place = givenIn (variableLayer e') x.place
  file : givenIn file x.place = givenIn file' x.place

theorem Setting.Holds.unique {x : Setting} {a a' : x.Value} (h : x.Holds e file a)
    (h' : x.Holds e' file' a') (hagree : x.Agree e file e' file') : a = a' := by
  obtain ⟨hown, hv, hf⟩ := hagree
  cases h <;> cases h' <;> simp_all

theorem Setting.agree_set {x : Setting} {name : String} (h : ¬x.IsNamedBy name) (value : String) :
    x.Agree (e.set name value) file e file where
  own := own?_set_of_ne (fun hx => h (.inl hx)) e value
  nested := givenIn_set_of_not (fun hx => h (.inr hx)) value
  file := rfl

theorem Setting.agree_remove {x : Setting} {name : String} (h : ¬x.IsNamedBy name) :
    x.Agree (e.remove name) file e file where
  own := own?_remove_of_ne (fun hx => h (.inl hx)) e
  nested := givenIn_remove_of_not fun hx => h (.inr hx)
  file := rfl

/-! ## Files of one line -/

/-- The values are the same, and no fractions, of which that cannot be told. -/
def Scalar.same : Scalar → Scalar → Bool
  | .nothing, .nothing => true
  | .boolean x, .boolean y => x == y
  | .integer x, .integer y => x == y
  | .text x, .text y => x == y
  | _, _ => false

theorem Scalar.eq_of_same {v w : Scalar} (h : v.same w = true) : v = w := by
  cases v <;> cases w <;> simp_all [Scalar.same]

mutual

/-- The trees are the same, and there are no fractions in them. -/
def Tree.same : Tree → Tree → Bool
  | .scalar v a, .scalar w b => v.same w && a == b
  | .list l a, .list m b => sameItems l m && a == b
  | .table l a, .table m b => sameMembers l m && a == b
  | _, _ => false

def sameItems : List Tree → List Tree → Bool
  | [], [] => true
  | t :: l, u :: m => t.same u && sameItems l m
  | _, _ => false

def sameMembers : List (String × Tree) → List (String × Tree) → Bool
  | [], [] => true
  | (k, t) :: l, (n, u) :: m => k == n && t.same u && sameMembers l m
  | _, _ => false

end

mutual

theorem Tree.eq_of_same {t u : Tree} (h : t.same u = true) : t = u := by
  match t, u, h with
  | .scalar v a, .scalar w b, h =>
    simp only [Tree.same, Bool.and_eq_true, beq_iff_eq] at h
    rw [Scalar.eq_of_same h.1, h.2]
  | .list l a, .list m b, h =>
    simp only [Tree.same, Bool.and_eq_true, beq_iff_eq] at h
    rw [eq_of_sameItems h.1, h.2]
  | .table l a, .table m b, h =>
    simp only [Tree.same, Bool.and_eq_true, beq_iff_eq] at h
    rw [eq_of_sameMembers h.1, h.2]

theorem eq_of_sameItems {l m : List Tree} (h : sameItems l m = true) : l = m := by
  match l, m, h with
  | [], [], _ => rfl
  | t :: l, u :: m, h =>
    simp only [sameItems, Bool.and_eq_true] at h
    rw [Tree.eq_of_same h.1, eq_of_sameItems h.2]

theorem eq_of_sameMembers {l m : List (String × Tree)} (h : sameMembers l m = true) : l = m := by
  match l, m, h with
  | [], [], _ => rfl
  | (k, t) :: l, (n, u) :: m, h =>
    simp only [sameMembers, Bool.and_eq_true, beq_iff_eq] at h
    rw [h.1.1, Tree.eq_of_same h.1.2, eq_of_sameMembers h.2]

end

theorem eq_some_of_same {x : Option (List (String × Tree))} {m : List (String × Tree)}
    (h : x.any (sameMembers · m) = true) : x = some m := by
  obtain ⟨l, hl, hsame⟩ := (Option.any_eq_true _ _).1 h
  rw [hl, eq_of_sameMembers hsame]

theorem Path.read_quota : Path.read "quota" = [.key "quota"] :=
  Path.read_names "quota" [] (by decide) (by decide)

/-- A file that gives the time of the quota authority. -/
def timeoutFile : Files := [("config/default.toml", "quota.timeout_ms = 7")]

/-- What that file gives. -/
def timeoutLayer : List (String × Tree) :=
  let source := Source.file "config/default.toml"
  [("quota", .table [("timeout_ms", .scalar (.integer 7) source)] source)]

theorem fileLayer_timeoutFile : fileLayer timeoutFile = some timeoutLayer :=
  eq_some_of_same (by decide +kernel)

theorem givenIn_timeoutLayer (x : Setting) :
    givenIn timeoutLayer x.place =
      if x = .quotaTimeout then [.scalar (.integer 7) (.file "config/default.toml")] else [] := by
  simp only [givenIn, timeoutLayer, List.flatMap_singleton, Path.read_quota]
  cases x <;> rfl

theorem Regular.timeoutLayer : Regular timeoutLayer where
  fits x m hm := by
    obtain rfl := List.mem_singleton.mp hm
    rw [Path.read_quota]
    cases x <;> simp [Setting.place, Tree.FitsFrom, Tree.Fits]
  once x := by
    rw [givenIn_timeoutLayer]
    split <;> simp

/-- That file changes that setting alone. -/
theorem Loads.timeoutFile :
    Loads .empty timeoutFile timeoutLayer (Setting.quotaTimeout.set 7 default) := by
  refine .of_file fileLayer_timeoutFile .timeoutLayer ?_ fun x => ?_
  · simp [layers, Tree.layer, timeoutLayer, Path.read_quota, Tree.put, variableLayer,
      Environment.empty]
  · have hgiven : x.given? .empty timeoutLayer =
        if x = .quotaTimeout then some (.scalar (.integer 7) (.file "config/default.toml"))
        else none := by
      rw [Setting.given?, givenIn_timeoutLayer]
      split <;> rfl
    rw [Setting.fromLayers, hgiven]
    cases x <;> rfl

/-! ## The theorem -/

/-- Each setting has the value of the highest layer that gives it, by itself: its own variable, a
variable whose name spells its place, the file, or else the built-in value.  Where the layers give
the same for a setting, what they give for others does not matter to it, so setting or removing a
variable changes no setting that it is not named for; keys of no setting change nothing.  A variable
of a setting's own that is not the number that is wanted fails the whole. -/
theorem load_by_layers :
    (∀ {e files file s}, Loads e files file s → ∀ x : Setting, x.Holds e file (x.get s)) ∧
    (∀ {e files file s e' files' file' s'}, Loads e files file s → Loads e' files' file' s' →
      (∀ x : Setting, x.Agree e file e' file' → x.get s = x.get s') ∧
        ((∀ x : Setting, x.Agree e file e' file') → s = s')) ∧
    (∀ {e files file s e' s' name}, Loads e files file s → Loads e' files file s' →
      (e' = e.remove name ∨ ∃ value, e' = e.set name value) →
      ∀ x : Setting, ¬x.IsNamedBy name → x.get s' = x.get s) ∧
    ∀ (e : Environment) (files : Files) (x : Setting) (f : NumberFault),
      x.own? e = some (.error f) → ∀ s, load e files ≠ .ok s := by
  refine ⟨fun h => h.holds, fun h h' => ⟨fun x hx => ?_, fun hall => ?_⟩, fun h h' he x hx => ?_,
    fun e files x f hx s hs => ?_⟩
  · exact (h.holds x).unique (h'.holds x) hx
  · exact Setting.ext fun x => (h.holds x).unique (h'.holds x) (hall x)
  · refine (h'.holds x).unique (h.holds x) ?_
    obtain rfl | ⟨value, rfl⟩ := he
    · exact Setting.agree_remove hx
    · exact Setting.agree_set hx value
  · obtain ⟨_, _, u, _, _, _, hu⟩ := load_eq_ok.mp hs
    simpa [Setting.after, hx] using hu x

/-- Two variables over the file that gives the time of the quota authority. -/
def layeredEnvironment : Environment :=
  ⟨[("GATEWAY__QUOTA__URL", "q"), ("GATEWAY_REDPANDA_TOPIC", "t")]⟩

theorem spells_quotaUrl : Spells "GATEWAY__QUOTA__URL" Setting.quotaUrl.place :=
  spells_of rfl (by decide +kernel) (by decide +kernel) (by decide +kernel)

theorem scalarOf_q : scalarOf "q" = .text "q" :=
  scalarOf_of_text (by decide) (by decide) (by decide)

theorem loads_quotaUrl :
    Loads ⟨[("GATEWAY__QUOTA__URL", "q")]⟩ timeoutFile timeoutLayer
      (Setting.quotaUrl.set "q" (Setting.quotaTimeout.set 7 default)) :=
  Loads.timeoutFile.set_nested spells_quotaUrl rfl rfl "q" (by rw [scalarOf_q]; rfl)

theorem loads_layered :
    Loads layeredEnvironment timeoutFile timeoutLayer
      (Setting.topic.set "t" (Setting.quotaUrl.set "q" (Setting.quotaTimeout.set 7 default))) :=
  loads_quotaUrl.set_own (x := .topic) rfl "t" rfl

/-- Of the quota authority the time is from the file and the address from a variable; the topic is
from a variable of its own, and the built-in one without it. -/
theorem load_by_layers_layered :
    (∃ s, load layeredEnvironment timeoutFile = .ok s ∧ s.quota = ⟨"q", 7⟩ ∧
      s.broker.topic = "t" ∧
      Setting.quotaTimeout.Holds layeredEnvironment timeoutLayer s.quota.timeoutMs ∧
      ∃ s', load (layeredEnvironment.remove "GATEWAY_REDPANDA_TOPIC") timeoutFile = .ok s' ∧
        s'.broker.topic = "published" ∧ s'.quota.url = s.quota.url) ∧
    ∀ s, load ⟨[("GATEWAY_INTERNAL_MARKER_VALUE", "x")]⟩ [] ≠ .ok s := by
  refine ⟨⟨_, loads_layered.load_eq, rfl, rfl, load_by_layers.1 loads_layered .quotaTimeout, _,
    loads_quotaUrl.load_eq, rfl, ?_⟩, ?_⟩
  · exact load_by_layers.2.2.1 loads_layered loads_quotaUrl
      (.inl (show _ = layeredEnvironment.remove "GATEWAY_REDPANDA_TOPIC" from rfl)) .quotaUrl
      (not_or.mpr ⟨by decide, Setting.not_spells_own (x := .topic) rfl _⟩)
  · exact load_by_layers.2.2.2 _ _ .markerValue .badDigit rfl

/-- A file with the settings of the quota authority as a list. -/
def listedFile : Files := [("config/default.toml", "quota = [\"u\", 7]")]

/-- The list in that file. -/
def listedQuota : Tree :=
  let source := Source.file "config/default.toml"
  .list [.scalar (.text "u") source, .scalar (.integer 7) source] source

theorem fileLayer_listedFile : fileLayer listedFile = some [("quota", listedQuota)] :=
  eq_some_of_same (by decide +kernel)

/-- The key of the second broker. -/
theorem Path.read_secondBroker :
    Path.read "redpanda.brokers[1]" = [.key "redpanda", .key "brokers", .index 1] := by
  have hitem : steps? "[1]".toList = some [.index 1] := by
    rw [show "[1]".toList = ['[', '1', ']'] from rfl, steps?, if_neg (by decide), if_pos rfl]
    show (item? ['1']).bind (fun item => (steps? []).map (item :: ·)) = _
    rw [steps?]
    rfl
  have hbrokers : steps? ".brokers[1]".toList = some [.key "brokers", .index 1] :=
    (steps?_name (k := "brokers") (by decide) (by decide)).trans
      (congrArg (Option.map (.key "brokers" :: ·)) hitem)
  exact Path.read_name (by decide) (by decide) rfl hbrokers

/-- Layers that are not regular.  A list gives the settings of a section too, but is not merged:
with a variable for the address of the authority its time is no longer that of the file.  Neither is
it after a number in place of the section.  And an item goes into the list of a lower layer. -/
theorem irregular_layers :
    (load .empty listedFile = .ok { default with quota := ⟨"u", 7⟩ } ∧
      load ⟨[("GATEWAY__QUOTA__URL", "q")]⟩ listedFile =
        .ok { default with quota := ⟨"q", 5000⟩ }) ∧
    load ⟨[("GATEWAY__QUOTA", "5"), ("GATEWAY__QUOTA__URL", "q")]⟩ timeoutFile =
      .ok { default with quota := ⟨"q", 5000⟩ } ∧
    load ⟨[("GATEWAY__REDPANDA__BROKERS[1]", "q")]⟩ [] =
      .ok (Setting.brokers.set ["localhost:9092", "q"] default) := by
  have hquota : variableKey? "GATEWAY__QUOTA" = some "quota" := by decide +kernel
  have hurl : variableKey? "GATEWAY__QUOTA__URL" = some "quota.url" := by decide +kernel
  have hsecond : variableKey? "GATEWAY__REDPANDA__BROKERS[1]" = some "redpanda.brokers[1]" := by
    decide +kernel
  have hfive : scalarOf "5" = .integer 5 := scalarOf_of_whole (t := "5") (n := 5) (by decide) rfl
  have hpath : Path.read "quota.url" = [.key "quota", .key "url"] :=
    Path.read_names "quota" ["url"] (by decide) (by decide)
  refine ⟨⟨?_, ?_⟩, ?_, ?_⟩
  · refine load_of_layers fileLayer_listedFile (fun x => x.own?_empty) ?_
    simp only [layers, layer_cons, Path.read_quota]
    exact ⟨_, rfl, rfl⟩
  · refine load_of_layers fileLayer_listedFile (fun x => by cases x <;> rfl) ?_
    simp only [layers, variableLayer, List.filterMap_cons, hurl, Option.map_some, scalarOf_q,
      layer_cons, Path.read_quota, hpath]
    exact ⟨_, rfl, rfl⟩
  · refine load_of_layers fileLayer_timeoutFile (fun x => by cases x <;> rfl) ?_
    simp only [layers, timeoutLayer, variableLayer, List.filterMap_cons, hquota, hurl,
      Option.map_some, hfive, scalarOf_q, layer_cons, Path.read_quota, hpath]
    exact ⟨_, rfl, rfl⟩
  · refine load_of_layers rfl (fun x => by cases x <;> rfl) ?_
    simp only [layers, variableLayer, List.filterMap_cons, hsecond, Option.map_some, scalarOf_q,
      layer_cons, Path.read_secondBroker]
    exact ⟨_, rfl, rfl⟩

end Sluice.Settings
