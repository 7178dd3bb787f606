import Sluice.Settings.Load

/-!
# What layers give

A layer gives values at places, and a place is told by the names that lead to it through tables.
`Tree.given` is all that a tree gives at a place, and `givenIn` all that the members of a layer do,
whose keys may lead there in one step or in several.

Layers are laid over each other member by member, and still each place can be looked at alone
(`at?_layer`): it has the last value that the layer gives there, and if the layer gives none what
was there before.  What this takes of the layer is `FitsIn`: on the way to the place it has nothing
but tables, and at the place itself it has no table, which would be merged, and no part of a value.
-/

namespace Sluice.Settings

namespace Tree

/-! ## Places -/

/-- What is at the place that names lead to. -/
def at? : List String → Tree → Option Tree
  | [], t => some t
  | k :: p, t => (t.member? k).bind (at? p)

@[simp] theorem at?_nil (t : Tree) : t.at? [] = some t := rfl

@[simp] theorem at?_cons (k : String) (p : List String) (t : Tree) :
    t.at? (k :: p) = (t.member? k).bind (at? p) := rfl

theorem at?_singleton {k : String} {t v : Tree} : t.at? [k] = some v ↔ t.member? k = some v := by
  cases h : t.member? k <;> simp [h]

theorem at?_getD_empty {p : List String} (hp : p ≠ []) (t : Option Tree) :
    (t.getD empty).at? p = t.bind (at? p) := by
  cases t with
  | some => rfl
  | none => cases p with
    | nil => exact absurd rfl hp
    | cons => rfl

/-- All that a tree gives at a place. -/
def given : List String → Tree → List Tree
  | [], t => [t]
  | k :: p, .table m _ => (m.filter (·.1 == k)).flatMap fun v => given p v.2
  | _ :: _, _ => []

/-- A tree has nothing but tables on the way to a place, and no table at it. -/
def Fits : List String → Tree → Prop
  | [], .table _ _ => False
  | [], _ => True
  | k :: p, .table m _ => ∀ v ∈ m, v.1 = k → Fits p v.2
  | _ :: _, _ => False

/-! ## One value over another -/

theorem laidOver_of_fits_nil {v : Tree} (h : v.Fits []) (below : Option Tree) :
    v.laidOver below = v := by
  cases v with
  | table => exact h.elim
  | scalar | list => simp [laidOver]

/-- Members over a value one by one: of those with a name the last one counts. -/
theorem at?_membersLaidOver {k : String} {p : List String}
    (hp : ∀ (v : Tree) (below : Option Tree), v.Fits p →
      (v.laidOver below).at? p = (v.given p).getLast?.or (below.bind (at? p)))
    (members : List (String × Tree)) (below : Tree)
    (h : ∀ v ∈ members, v.1 = k → v.2.Fits p) :
    (membersLaidOver members below).at? (k :: p) =
      ((members.filter (·.1 == k)).flatMap fun v => v.2.given p).getLast?.or
        (below.at? (k :: p)) := by
  induction members generalizing below with
  | nil => simp [membersLaidOver]
  | cons v r ih =>
    obtain ⟨key, v⟩ := v
    rw [membersLaidOver, ih _ fun w hw => h w (List.mem_cons_of_mem _ hw)]
    by_cases hk : key = k
    · subst hk
      have hv := hp v (below.member? key) (h _ List.mem_cons_self rfl)
      simp [member?_withMember_self, hv, List.getLast?_append, Option.or_assoc]
    · simp [member?_withMember_of_ne (Ne.symm hk), hk]

theorem at?_laidOver {p : List String} {v : Tree} (h : v.Fits p) (below : Option Tree) :
    (v.laidOver below).at? p = (v.given p).getLast?.or (below.bind (at? p)) := by
  induction p generalizing v below with
  | nil => simp [laidOver_of_fits_nil h, given]
  | cons k p ih =>
    cases v with
    | scalar | list => exact h.elim
    | table m s =>
      rw [laidOver, at?_membersLaidOver (fun v below hv => ih hv below) m _ h,
        at?_getD_empty (List.cons_ne_nil k p)]
      rfl

/-! ## A value at the end of a path -/

/-- All that a value at the end of a path gives at a place. -/
def givenFrom : Path → List String → Tree → List Tree
  | [], p, v => v.given p
  | .key k :: path, k' :: p, v => if k = k' then givenFrom path p v else []
  | _, _, _ => []

/-- A value at the end of a path, as far as it is on the way to a place, fits it; and the path does
not lead into the place. -/
def FitsFrom : Path → List String → Tree → Prop
  | [], p, v => v.Fits p
  | .key k :: path, k' :: p, v => k = k' → FitsFrom path p v
  | _, _, _ => False

theorem FitsFrom.path_eq_nil {path : Path} {v : Tree} (h : v.FitsFrom path []) : path = [] := by
  match path, h with
  | [], _ => rfl
  | .key _ :: _, h | .index _ :: _, h | .fromEnd _ :: _, h => exact h.elim

/-- A value put at the end of a path: at each place it counts before what was there. -/
theorem at?_put {path : Path} {p : List String} {v t t' : Tree} (hpath : path ≠ [])
    (h : v.FitsFrom path p) (hput : put v path t = some t') :
    t'.at? p = (v.givenFrom path p).getLast?.or (t.at? p) := by
  fun_induction put v path t generalizing p t' with
  | case1 => exact absurd rfl hpath
  | case2 k t =>
    obtain rfl := Option.some.inj hput
    cases p with
    | nil => exact h.elim
    | cons k' p =>
      by_cases hk : k = k'
      · subst hk
        have hv : v.Fits p := h rfl
        simp [member?_withMember_self, at?_laidOver hv, givenFrom]
      · simp [member?_withMember_of_ne (Ne.symm hk), givenFrom, hk]
  | case3 k path t hne ih =>
    obtain ⟨w, hw, rfl⟩ := Option.map_eq_some_iff.mp hput
    cases p with
    | nil => exact h.elim
    | cons k' p =>
      by_cases hk : k = k'
      · subst hk
        have hv : v.FitsFrom path p := h rfl
        have hp : p ≠ [] := by
          rintro rfl
          exact hne hv.path_eq_nil
        have := ih hne hv hw
        simp [member?_withMember_self, this, at?_getD_empty hp, givenFrom]
      · simp [member?_withMember_of_ne (Ne.symm hk), givenFrom, hk]
  | case4 | case5 | case6 | case7 => cases p <;> exact h.elim

/-- A path of names always leads somewhere. -/
theorem put_names_isSome (v t : Tree) (p : List String) : (put v (p.map .key) t).isSome := by
  induction p generalizing t with
  | nil => rfl
  | cons k p ih =>
    cases p with
    | nil => rfl
    | cons k' p => simpa [put] using ih _

end Tree

/-! ## The members of a layer -/

/-- All that the members of a layer give at a place. -/
def givenIn (members : List (String × Tree)) (p : List String) : List Tree :=
  members.flatMap fun m => m.2.givenFrom (Path.read m.1) p

/-- The members of a layer, as far as they are on the way to a place, fit it. -/
def FitsIn (members : List (String × Tree)) (p : List String) : Prop :=
  ∀ m ∈ members, m.2.FitsFrom (Path.read m.1) p

/-! ## Keys that are names -/

/-- A text that may be a name in a path. -/
def IsName (k : String) : Prop := k.toList ≠ [] ∧ k.toList.all isNameChar = true

instance (k : String) : Decidable (IsName k) := inferInstanceAs (Decidable (_ ∧ _))

section Name

variable {k : String} {rest : List Char}

theorem takeWhile_name (hk : IsName k) (hrest : rest.takeWhile isNameChar = []) :
    (k.toList ++ rest).takeWhile isNameChar = k.toList := by
  rw [List.takeWhile_append_of_pos (List.all_eq_true.mp hk.2), hrest, List.append_nil]

theorem dropWhile_name (hk : IsName k) (hrest : rest.takeWhile isNameChar = []) :
    (k.toList ++ rest).dropWhile isNameChar = rest := by
  rw [List.dropWhile_append_of_pos (List.all_eq_true.mp hk.2)]
  simpa [hrest] using List.takeWhile_append_dropWhile (p := isNameChar) (l := rest)

/-- A name after a point is a step, up to where it ends. -/
theorem steps?_name (hk : IsName k) (hrest : rest.takeWhile isNameChar = []) :
    steps? ('.' :: (k.toList ++ rest)) = (steps? rest).map (.key k :: ·) := by
  rw [steps?, if_pos rfl, takeWhile_name hk hrest, dropWhile_name hk hrest]
  simp [hk.1]

/-- A key that begins with a name. -/
theorem Path.read_name {key : String} {path : Path} (hk : IsName k)
    (hrest : rest.takeWhile isNameChar = []) (hkey : key.toList = k.toList ++ rest)
    (hsteps : steps? rest = some path) : Path.read key = .key k :: path := by
  rw [Path.read, hkey, takeWhile_name hk hrest, dropWhile_name hk hrest, hsteps]
  simp [hk.1]

end Name

/-- Names with a point before each. -/
def dotted (names : List String) : List Char := names.flatMap fun k => '.' :: k.toList

theorem takeWhile_dotted (names : List String) : (dotted names).takeWhile isNameChar = [] := by
  cases names with
  | nil => rfl
  | cons k r => rfl

theorem steps?_dotted {names : List String} (h : ∀ k ∈ names, IsName k) :
    steps? (dotted names) = some (names.map .key) := by
  induction names with
  | nil => simp [dotted, steps?]
  | cons k r ih =>
    obtain ⟨hk, hr⟩ := List.forall_mem_cons.mp h
    have hcons : dotted (k :: r) = '.' :: (k.toList ++ dotted r) := rfl
    rw [hcons, steps?_name hk (takeWhile_dotted r), ih hr]
    rfl

/-- A key of names with points between them leads from one to the next. -/
theorem Path.read_names {key : String} (k : String) (names : List String)
    (hkey : key.toList = k.toList ++ dotted names) (h : ∀ n ∈ k :: names, IsName n) :
    Path.read key = (k :: names).map .key := by
  obtain ⟨hk, hnames⟩ := List.forall_mem_cons.mp h
  exact Path.read_name hk (takeWhile_dotted names) hkey (steps?_dotted hnames)

theorem Path.read_ne_nil (key : String) : Path.read key ≠ [] := by
  simp only [Path.read]
  split
  · simp
  · split <;> simp

/-- A layer over a tree, seen at one place: the last value that the layer gives there, or else what
was there. -/
theorem at?_layer {members : List (String × Tree)} {p : List String} (h : FitsIn members p)
    {t t' : Tree} (hlayer : t.layer members = some t') :
    t'.at? p = (givenIn members p).getLast?.or (t.at? p) := by
  induction members generalizing t with
  | nil =>
    obtain rfl := Option.some.inj hlayer
    simp [givenIn]
  | cons m r ih =>
    obtain ⟨u, hu, hr⟩ := Option.bind_eq_some_iff.mp hlayer
    rw [ih (fun n hn => h n (List.mem_cons_of_mem _ hn)) hr,
      Tree.at?_put (Path.read_ne_nil m.1) (h m List.mem_cons_self) hu]
    simp [givenIn, List.getLast?_append, Option.or_assoc]

theorem layer_cons (key : String) (v : Tree) (r : List (String × Tree)) (t : Tree) :
    t.layer ((key, v) :: r) = (v.put (Path.read key) t).bind fun t => t.layer r := by
  simp [Tree.layer]

theorem layer_append (a b : List (String × Tree)) (t : Tree) :
    t.layer (a ++ b) = (t.layer a).bind fun t => t.layer b := by
  simp [Tree.layer, List.foldlM_append]

end Sluice.Settings
