import Mathlib.Data.Finset.Insert
import Mathlib.Data.Finset.Dedup
import Sluice.Proofs.Json.Objects

/-!
# The order of members

What the members of an object make is told by what each of them does to what was read before
(`Members.put`).  If any two members may change places, then so may all of them, and a member may
stand for another that does the same (`Members.on_perm`, `Members.on_congr`).

The members of a record may change places if they name different fields (`Record.on_perm`).  They do
not do quite the same then, since the fields read so far are kept in the order of reading; but
nothing hangs on that order, and with a set in its place they do (`Record.put`, `Record.on_object`).
-/

namespace Sluice.Json

/-! ## One after the other -/

section Runs

variable {β σ : Type} {f : σ → β → Option σ}

/-- Two steps may change places. -/
def Swaps (f : σ → β → Option σ) (a b : β) : Prop :=
  ∀ x, ((f x a).bind fun y => f y b) = (f x b).bind fun y => f y a

theorem Swaps.symm {a b : β} (h : Swaps f a b) : Swaps f b a := fun x => (h x).symm

theorem bind_foldlM (f : σ → β → Option σ) (o : Option σ) (xs : List β) :
    (o.bind fun x => xs.foldlM f x) = xs.foldl (fun o a => o.bind fun x => f x a) o := by
  induction xs generalizing o with
  | nil => cases o <;> rfl
  | cons a xs ih =>
    rw [List.foldl_cons, ← ih, Option.bind_assoc]
    rfl

theorem foldlM_perm {xs ys : List β} (h : xs.Perm ys) (hswaps : xs.Pairwise (Swaps f)) (x : σ) :
    xs.foldlM f x = ys.foldlM f x := by
  have hruns (zs : List β) :
      zs.foldlM f x = zs.foldl (fun o a => o.bind fun x => f x a) (some x) :=
    bind_foldlM f (some x) zs
  have hall : ∀ a ∈ xs, ∀ b ∈ xs, Swaps f a b := fun a ha b hb =>
    List.Pairwise.forall_of_forall_of_flip (fun _ _ _ => rfl) hswaps
      (hswaps.imp fun hab => hab.symm) ha hb
  rw [hruns, hruns]
  refine h.foldl_eq' (fun a ha b hb o => ?_) _
  rw [Option.bind_assoc, Option.bind_assoc]
  exact congrArg o.bind (funext (hall a ha b hb))

theorem foldlM_congr {a b : β} (h : ∀ x, f x a = f x b) (pre post : List β) (x : σ) :
    (pre ++ a :: post).foldlM f x = (pre ++ b :: post).foldlM f x := by
  rw [List.foldlM_append, List.foldlM_append]
  simp only [List.foldlM_cons, h]

end Runs

namespace Members

variable {σ : Type} {m : Members σ}

theorem on_eq_foldlM (m : Members σ) (x : σ) (ms : List (Spelling × Tree)) :
    m.on x ms = ms.foldlM m.put x := by
  induction ms generalizing x with
  | nil => rfl
  | cons a ms ih =>
    rw [on_cons, List.foldlM_cons]
    exact congrArg (m.put x a).bind (funext ih)

theorem on_perm {ms ms' : List (Spelling × Tree)} (h : ms.Perm ms')
    (hswaps : ms.Pairwise (Swaps m.put)) (x : σ) : m.on x ms = m.on x ms' := by
  rw [on_eq_foldlM, on_eq_foldlM, foldlM_perm h hswaps]

theorem on_congr {a b : Spelling × Tree} (h : ∀ x, m.put x a = m.put x b)
    (pre post : List (Spelling × Tree)) (x : σ) :
    m.on x (pre ++ a :: post) = m.on x (pre ++ b :: post) := by
  rw [on_eq_foldlM, on_eq_foldlM, foldlM_congr h]

end Members

/-! ## Records -/

/-- The fields read so far, in no order, and the record they make. -/
def Partial.view {α : Type} (p : Partial α) : Finset String × α := (p.seen.toFinset, p.value)

/-- What a value of a field makes of a record that is partly read. -/
def Field.put {α : Type} (f : Field α) (t : Tree) (x : Finset String × α) :
    Option (Finset String × α) :=
  if f.name ∈ x.1 then none
  else (f.value.on t).map fun set => (insert f.name x.1, set x.2)

/-- Two fields may be read in any order if they put different parts of the record. -/
theorem Field.put_comm {α : Type} {f g : Field α} {t u : Tree} (hne : f.name ≠ g.name)
    (hset : ∀ {set set'}, f.value.on t = some set → g.value.on u = some set' →
      ∀ x, set' (set x) = set (set' x)) (x : Finset String × α) :
    ((f.put t x).bind fun y => g.put u y) = (g.put u x).bind fun y => f.put t y := by
  simp only [Field.put]
  cases hf : f.value.on t with
  | none => by_cases hgx : g.name ∈ x.1 <;> cases hg : g.value.on u <;> simp [hgx]
  | some set =>
    cases hg : g.value.on u with
    | none => by_cases hfx : f.name ∈ x.1 <;> simp [hfx]
    | some set' =>
      by_cases hfx : f.name ∈ x.1 <;> by_cases hgx : g.name ∈ x.1 <;>
        simp [hfx, hgx, hne, hne.symm, hset hf hg, Finset.insert_comm]

namespace Record

variable {α : Type} {r : Record α}

/-- What a member makes of a record, if the fields read so far are a set. -/
def put (r : Record α) (x : Finset String × α) (a : Spelling × Tree) : Option (Finset String × α) :=
  (a.1.text?.map r.field?).bind fun
    | none => some x
    | some f => f.put a.2 x

/-- The record, if none of its fields is missing. -/
def done (r : Record α) (x : Finset String × α) : Option α :=
  if ∀ f ∈ r.fields, f.absence = .refused → f.name ∈ x.1 then some x.2 else none

theorem step_view (r : Record α) (p : Partial α) (a : Spelling × Tree) :
    (a.1.text?.bind fun key => (r.step p key a.2).map Partial.view) = r.put p.view a := by
  rw [put, Option.bind_map]
  refine congrArg a.1.text?.bind (funext fun key => ?_)
  rw [step, Function.comp_apply]
  cases r.field? key with
  | none => rfl
  | some f =>
    simp only [Field.put, Partial.view, List.mem_toFinset]
    split
    · rfl
    · rw [Option.map_map]
      exact congrArg (Option.map · (f.value.on a.2)) (funext fun set => by simp [Partial.view])

theorem on_view (r : Record α) (p : Partial α) (ms : List (Spelling × Tree)) :
    (r.asObject.on p ms).map Partial.view = ms.foldlM r.put p.view := by
  induction ms generalizing p with
  | nil => rfl
  | cons a ms ih =>
    obtain ⟨k, t⟩ := a
    rw [asObject_on_cons, List.foldlM_cons, ← step_view]
    simp only [Option.map_bind, Option.bind_eq_bind, Option.bind_assoc, Option.bind_map,
      Function.comp_def, ih]

theorem finish_view (r : Record α) (p : Partial α) : (r.finish p).toOption = r.done p.view := by
  rw [finish, done]
  split
  · rename_i f hf
    have hmissing := List.find?_some hf
    rw [if_neg]
    · rfl
    · intro hall
      have hmem := hall f (List.mem_of_find?_eq_some hf)
      simp_all [Partial.view]
  · rename_i hnone
    rw [if_pos]
    · rfl
    · intro f hf hneeded
      have := List.find?_eq_none.1 hnone f hf
      simpa [Partial.view, hneeded] using this

/-- What an object is of its members, told without the order of the fields read. -/
theorem on_object (r : Record α) (ms : List (Spelling × Tree)) :
    r.on (.object ms) = (ms.foldlM r.put (∅, r.blank)).bind r.done := by
  have hview := r.on_view ⟨[], r.blank⟩ ms
  rw [show Partial.view ⟨[], r.blank⟩ = (∅, r.blank) from rfl] at hview
  rw [on, ← hview, Option.bind_map]
  exact congrArg (Option.bind _) (funext r.finish_view)

/-- Different fields put different parts of the record. -/
def Independent (r : Record α) : Prop :=
  ∀ f ∈ r.fields, ∀ g ∈ r.fields, f.name ≠ g.name → ∀ {t u set set'}, f.value.on t = some set →
    g.value.on u = some set' → ∀ x, set' (set x) = set (set' x)

theorem put_swaps (h : r.Independent) {a b : Spelling × Tree}
    (hab : ∀ f g, r.fieldOf? a.1 = some f → r.fieldOf? b.1 = some g → f.name ≠ g.name) :
    Swaps r.put a b := by
  intro x
  simp only [fieldOf?] at hab
  simp only [put]
  cases ha : a.1.text? with
  | none => simp
  | some key =>
    cases hb : b.1.text? with
    | none => simp
    | some key' =>
      rw [ha, hb, Option.bind_some, Option.bind_some] at hab
      simp only [Option.map_some, Option.bind_some]
      cases hf : r.field? key with
      | none => cases hg : r.field? key' <;> simp
      | some f =>
        cases hg : r.field? key' with
        | none => simp
        | some g =>
          have hne := hab f g hf hg
          exact Field.put_comm hne
            (h f (List.mem_of_find?_eq_some hf) g (List.mem_of_find?_eq_some hg) hne) x

/-- The members of an object may change places if they name different fields. -/
theorem on_perm (h : r.Independent) {ms ms' : List (Spelling × Tree)} (hperm : ms.Perm ms')
    (apart : ms.Pairwise fun a b =>
      ∀ f g, r.fieldOf? a.1 = some f → r.fieldOf? b.1 = some g → f.name ≠ g.name) :
    r.on (.object ms) = r.on (.object ms') := by
  rw [on_object, on_object, foldlM_perm hperm (apart.imp fun hab => put_swaps h hab)]

/-- A member may stand for another that names the same field, with the same value of it. -/
theorem on_congr {k k' : Spelling} {t t' : Tree} (hk : k.text?.map r.field? = k'.text?.map r.field?)
    (ht : ∀ f, r.fieldOf? k = some f → f.value.on t = f.value.on t')
    (pre post : List (Spelling × Tree)) :
    r.on (.object (pre ++ (k, t) :: post)) = r.on (.object (pre ++ (k', t') :: post)) := by
  have hput (x : Finset String × α) : r.put x (k, t) = r.put x (k', t') := by
    simp only [put, ← hk]
    cases hkey : k.text? with
    | none => rfl
    | some key =>
      simp only [fieldOf?, hkey, Option.bind_some] at ht
      cases hf : r.field? key with
      | none => simp [hf]
      | some f => simp [hf, Field.put, ht f hf]
  rw [on_object, on_object, foldlM_congr hput]

end Record

end Sluice.Json
