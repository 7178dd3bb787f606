import Sluice.Proofs.Dialogue.Pool
import Sluice.Proofs.Gateway.Requests
import Sluice.Proofs.Gateway.Tasks

/-!
# The deny-list in force

The life of a process is a pool of tasks: it starts, loads the deny-list again and again, and serves
requests, one step of any of them at a time.  The world may answer anything.  `Life` keeps the lists
that were put in force beside the state, oldest first.

`InForce` is what holds at every moment: the list in force is the last of these, each came of one
complete load, and what the counter, the health and the requests tell agrees with them.  `Step`s
other than the end of a load leave all that as it was (`Unmoved`).
-/

namespace Sluice.Gateway

open Dialogue

/-! ## Tasks of a process -/

/-- What a process does. -/
inductive Chore where
  | startup (pages : Nat)
  | refresh (pages : Nat)
  | request (r : Request)

/-- What comes of it. -/
inductive Outcome where
  | started (result : Except StartFailure Unit)
  | loaded (result : Option (Except Fault Nat))
  | answered (response : Response)

def Chore.task (s : Settings) : Chore → Task Outcome
  | .startup pages => .started <$> prepare s pages
  | .refresh pages => .loaded <$> reload s.denyList pages
  | .request r => .answered <$> serve s r

/-- What a task may ask next. -/
def Chore.Asks (s : Settings) : Chore → Transcript errands → Errand → Prop
  | .startup _ => StartAsks s.denyList
  | .refresh _ => LoadAsks s.denyList
  | .request r => ServeAsks r

/-- How a task ends. -/
def Chore.Ended (s : Settings) : Chore → Transcript errands → Outcome → Prop
  | .startup _, l, .started x => StartEnded l x
  | .refresh _, l, .loaded x => LoadEnded l x
  | .request r, l, .answered _ => ServeEnded s r l
  | _, _, _ => False

theorem task_always (s : Settings) (chore : Chore) :
    (chore.task s).Always (chore.Asks s) (chore.Ended s) [] := by
  cases chore with
  | startup pages => exact always_map.2 (prepare_always s pages)
  | refresh pages => exact always_map.2 (reload_always s.denyList pages)
  | request r => exact always_map.2 (serve_always s r)

/-- What a task asks, as far as the deny-list is concerned. -/
theorem asks_cases {s : Settings} {chore : Chore} {past : Transcript errands} {e : Errand}
    (h : chore.Asks s past e) :
    (∃ list, e = .access (.install list) ∧ installs past = [] ∧ Complete s.denyList past list ∧
      ∀ r, chore ≠ .request r) ∨
    (e = .access .denyList ∧ readings past = [] ∧ ∃ r, chore = .request r) ∨
    (∃ address, e = .world (.listen address) ∧ installs past ≠ [] ∧ ∃ n, chore = .startup n) ∨
    e.Apart := by
  have hload (h : LoadAsks s.denyList past e) : (∃ list, e = .access (.install list) ∧
      installs past = [] ∧ Complete s.denyList past list) ∨ e.Apart := by
    obtain ⟨hi, ⟨c, rfl⟩ | ⟨list, rfl, hc⟩⟩ := h
    · exact .inr trivial
    · exact .inl ⟨list, rfl, hi, hc⟩
  cases chore with
  | startup n =>
    obtain h | ⟨hi, h | ⟨address, rfl⟩⟩ := h
    · obtain ⟨list, he, hi, hc⟩ | h := hload h
      · exact .inl ⟨list, he, hi, hc, fun _ => Chore.noConfusion⟩
      · exact .inr (.inr (.inr h))
    · exact .inr (.inr (.inr h))
    · exact .inr (.inr (.inl ⟨address, rfl, hi, n, rfl⟩))
  | refresh n =>
    obtain ⟨list, he, hi, hc⟩ | h := hload h
    · exact .inl ⟨list, he, hi, hc, fun _ => Chore.noConfusion⟩
    · exact .inr (.inr (.inr h))
  | request r =>
    obtain ⟨-, ⟨he, hr⟩ | ⟨h, -⟩⟩ := h
    · exact .inr (.inl ⟨he, hr, r, rfl⟩)
    · exact .inr (.inr (.inr h))

/-! ## Life -/

/-- The state, and the deny-lists that were put in force, oldest first. -/
structure Life where
  state : State
  loaded : List DenyList

abbrev Activity := Course errands Chore Outcome

/-- How a process goes on.  It starts once; the deny-list is loaded again only after that list was
put in force, and requests are served only when the process listens.  The world may answer anything,
and does not touch the state. -/
def life (s : Settings) : Rules errands Chore Outcome Life where
  dialogue := Chore.task s
  mayBegin p
    | .startup _ => p.courses = []
    | .refresh _ => s.denyList.refreshSecs ≠ 0 ∧
      ∃ c ∈ p.courses, (∃ n, c.origin = .startup n) ∧ installs c.past ≠ []
    | .request _ => ∃ c ∈ p.courses, c.rest = .done (.started (.ok ()))
  answers
    | x, .world _, _, x' => x' = x
    | x, .access step, a, x' => a = (x.state.access step).1 ∧
      x' = ⟨(x.state.access step).2, x.loaded ++ installs [⟨.access step, a⟩]⟩

/-! ### Steps on the state -/

/-- Nothing that a load of the deny-list sets has changed. -/
structure Unmoved (x x' : Life) : Prop where
  loaded_eq : x'.loaded = x.loaded
  denyList_eq : x'.state.denyList = x.state.denyList
  /-- The number of its rules that is shown is the same. -/
  size_eq : x'.state.denyList.size = x.state.denyList.size
  reloads_eq : x'.state.metrics.get .denyListReloads = x.state.metrics.get .denyListReloads
  health_eq : x'.state.health.denyList = x.state.health.denyList

theorem Unmoved.refl (x : Life) : Unmoved x x := ⟨rfl, rfl, rfl, rfl, rfl⟩

/-- The step reads the deny-list, or it leaves it alone. -/
theorem access_unmoved {step : Access} (h : step.Apart ∨ step = .denyList) (x : Life) :
    Unmoved x ⟨(x.state.access step).2, x.loaded⟩ := by
  have hset {c : Component} (hc : c ≠ .denyList) (h : Health) (state : ComponentState) :
      (h.set c state).denyList = h.denyList := by
    have := h.get_set c .denyList state
    rwa [if_neg hc] at this
  have hadd {c : Counter} (hc : c ≠ .denyListReloads) (m : Metrics) (n : UInt64) :
      (m.add c n).get .denyListReloads = m.get .denyListReloads := by
    rw [Metrics.get_add, if_neg hc]
  obtain h | rfl := h
  · cases step with
    | count c n => exact ⟨rfl, rfl, rfl, hadd h _ n, rfl⟩
    | note c state => exact ⟨rfl, rfl, rfl, rfl, hset h _ state⟩
    | denyList => exact absurd h id
    | install list => exact absurd h id
    | observe time => exact ⟨rfl, rfl, rfl, rfl, rfl⟩
    | observeSink time => exact ⟨rfl, rfl, rfl, rfl, rfl⟩
    | token now => exact ⟨rfl, rfl, rfl, rfl, rfl⟩
    | health => exact ⟨rfl, rfl, rfl, rfl, rfl⟩
    | metrics => exact ⟨rfl, rfl, rfl, rfl, rfl⟩
    | client => exact ⟨rfl, rfl, rfl, rfl, rfl⟩
    | keep client => exact ⟨rfl, rfl, rfl, rfl, rfl⟩
  · exact .refl x

/-- A load has put its list in force. -/
structure Replaced (x x' : Life) (list : DenyList) : Prop where
  /-- It is the last list put in force. -/
  loaded_eq : x'.loaded = x.loaded ++ [list]
  denyList_eq : x'.state.denyList = list
  reloads_eq : x'.state.metrics.get .denyListReloads = x.state.metrics.get .denyListReloads + 1
  health_eq : x'.state.health.denyList = .working

theorem install_replaced (x : Life) (list : DenyList) :
    Replaced x ⟨x.state.install list, x.loaded ++ [list]⟩ list := by
  refine ⟨rfl, rfl, ?_, rfl⟩
  simp only [State.install, Metrics.get_add, if_true]

/-- An answer to a task either ends its load or moves nothing. -/
theorem answers_cases {s : Settings} {chore : Chore} {past : Transcript errands} {e : Errand}
    {a : errands.Answer e} {x x' : Life} (he : chore.Asks s past e)
    (ha : (life s).answers x e a x') :
    (Unmoved x x' ∧ installs [⟨e, a⟩] = [] ∧ ((∃ r, chore = .request r) ∧
      readings [⟨e, a⟩] = [x.state.denyList] ∨ readings [⟨e, a⟩] = [])) ∨
    ∃ list, Replaced x x' list ∧ installs past = [] ∧ installs [⟨e, a⟩] = [list] ∧
      readings [⟨e, a⟩] = [] ∧ Complete s.denyList past list ∧ ∀ r, chore ≠ .request r := by
  obtain ⟨list, rfl, hi, hc, hr⟩ | ⟨rfl, -, hr⟩ | ⟨address, rfl, -, -⟩ | hapart := asks_cases he
  · obtain ⟨-, rfl⟩ := ha
    exact .inr ⟨list, install_replaced x list, hi, rfl, rfl, hc, hr⟩
  · obtain ⟨rfl, rfl⟩ := ha
    refine .inl ⟨?_, rfl, .inl ⟨hr, rfl⟩⟩
    have h := access_unmoved (.inr rfl) x
    simpa [installs] using h
  · obtain rfl : x' = x := ha
    exact .inl ⟨.refl _, rfl, .inr rfl⟩
  · cases e with
    | world w =>
      obtain rfl : x' = x := ha
      exact .inl ⟨.refl _, rfl, .inr rfl⟩
    | access step =>
      obtain ⟨-, rfl⟩ := ha
      have hi := installs_of_apart (q := .access step) hapart a
      refine .inl ⟨?_, hi, .inr (readings_of_apart (q := .access step) hapart a)⟩
      rw [hi, List.append_nil]
      exact access_unmoved (.inl hapart) x

/-! ## At every moment -/

/-- Only the first task starts the process, and the others began when its list was in force. -/
def Led : List Activity → Prop
  | [] => True
  | c :: rest => (∃ n, c.origin = .startup n) ∧ (∀ d ∈ rest, ∀ n, d.origin ≠ .startup n) ∧
      (rest ≠ [] → installs c.past ≠ [])

theorem Led.begins {courses : List Activity} {d : Activity} (h : Led courses)
    (hd : courses = [] ∧ (∃ n, d.origin = .startup n) ∨ (∀ n, d.origin ≠ .startup n) ∧
      ∃ c ∈ courses, (∃ n, c.origin = .startup n) ∧ installs c.past ≠ []) :
    Led (courses ++ [d]) := by
  obtain ⟨rfl, hn⟩ | ⟨hn, c, hc, ⟨n, hstart⟩, hput⟩ := hd
  · exact ⟨hn, by simp, fun h => absurd rfl h⟩
  · cases courses with
    | nil => cases hc
    | cons first rest =>
      obtain ⟨hfirst, hrest, hloaded⟩ := h
      obtain rfl : c = first := by
        rcases List.mem_cons.1 hc with hc | hc
        · exact hc
        · exact absurd hstart (hrest c hc n)
      refine ⟨hfirst, fun e he => ?_, fun _ => hput⟩
      rcases List.mem_append.1 he with he | he
      · exact hrest e he
      · rw [List.mem_singleton.1 he]
        exact hn

/-- A task that goes on leads the others as before. -/
theorem Led.goes_on {before after : List Activity} {c c' : Activity}
    (h : Led (before ++ c :: after)) (horigin : c'.origin = c.origin)
    (hput : installs c.past ≠ [] → installs c'.past ≠ []) : Led (before ++ c' :: after) := by
  cases before with
  | nil =>
    obtain ⟨hfirst, hrest, hloaded⟩ := h
    exact ⟨horigin ▸ hfirst, hrest, fun hne => hput (hloaded hne)⟩
  | cons first before =>
    obtain ⟨hfirst, hrest, hloaded⟩ := h
    refine ⟨hfirst, fun d hd => ?_, fun _ => hloaded (by simp)⟩
    obtain rfl | hd := mem_middle c hd
    · rw [horigin]
      exact hrest c (by simp)
    · exact hrest d hd

/-- The state of a process agrees with the lists that its loads put in force. -/
structure InForce (p : Pool errands Chore Outcome Life) : Prop where
  /-- The list in force is the last of them. -/
  denyList_eq : p.state.state.denyList = p.state.loaded.getLast?.getD .empty
  /-- The counter of loads tells their number. -/
  reloads_eq : p.state.state.metrics.get .denyListReloads = UInt64.ofNat p.state.loaded.length
  /-- The deny-list works once there is one. -/
  health_eq : p.state.state.health.denyList =
    if p.state.loaded = [] then Health.unknown.denyList else .working
  /-- They are the lists of the tasks. -/
  loaded_perm : p.state.loaded.Perm (p.courses.flatMap fun c => installs c.past)
  led : Led p.courses
  /-- Requests are served by a process that listens. -/
  served : ∀ c ∈ p.courses, ∀ r, c.origin = .request r →
    ∃ d ∈ p.courses, d.rest = .done (.started (.ok ()))
  /-- What a request read was in force. -/
  readings_mem : ∀ c ∈ p.courses, ∀ list ∈ readings c.past, list ∈ p.state.loaded

/-- A process that has done nothing yet. -/
def atRest (s : Settings) (now : Nat) : Pool errands Chore Outcome Life :=
  ⟨⟨.initial .empty s.internal.perMinute now, []⟩, []⟩

theorem inForce_atRest (s : Settings) (now : Nat) : InForce (atRest s now) where
  denyList_eq := rfl
  reloads_eq := Metrics.get_zero _
  health_eq := rfl
  loaded_perm := .refl _
  led := trivial
  served _ h := by cases h
  readings_mem _ h := by cases h

section Run

variable {s : Settings} {p p' : Pool errands Chore Outcome Life} {c : Activity}

theorem ended_of_done (h : (c.origin.task s).Reaches c.past c.rest) {o : Outcome}
    (hr : c.rest = .done o) : c.origin.Ended s c.past o := by
  rw [hr] at h
  exact (task_always s c.origin).ended_of_reaches h

/-- A process that listens has put a list in force. -/
theorem started_of_done (h : (c.origin.task s).Reaches c.past c.rest)
    (hr : c.rest = .done (.started (.ok ()))) :
    (∃ n, c.origin = .startup n) ∧ installs c.past ≠ [] := by
  have hend := ended_of_done h hr
  cases horigin : c.origin with
  | startup n =>
    rw [horigin] at hend
    refine ⟨⟨n, rfl⟩, fun hi => ?_⟩
    obtain ⟨f, ⟨⟩⟩ | ⟨⟨⟩⟩ := hend.1 hi
  | refresh n =>
    rw [horigin] at hend
    cases hend
  | request r =>
    rw [horigin] at hend
    cases hend

theorem InForce.loaded_ne_nil (h : InForce p) (hc : c ∈ p.courses) (hi : installs c.past ≠ []) :
    p.state.loaded ≠ [] := by
  obtain ⟨list, hlist⟩ := List.exists_mem_of_ne_nil _ hi
  refine List.ne_nil_of_mem (a := list) ?_
  rw [h.loaded_perm.mem_iff]
  exact List.mem_flatMap.2 ⟨c, hc, hlist⟩

/-- There is a list in force while requests are served. -/
theorem InForce.loaded_of_request (h : InForce p) (hs : p.Sound (life s)) (hc : c ∈ p.courses)
    {r : Request} (hr : c.origin = .request r) : p.state.loaded ≠ [] := by
  obtain ⟨d, hd, hdone⟩ := h.served c hc r hr
  exact h.loaded_ne_nil hd (started_of_done (hs d hd) hdone).2

theorem InForce.denyList_mem (h : InForce p) (hne : p.state.loaded ≠ []) :
    p.state.state.denyList ∈ p.state.loaded := by
  rw [h.denyList_eq, List.getLast?_eq_some_getLast hne]
  exact List.getLast_mem hne

theorem InForce.begins (h : InForce p) (hs : p.Sound (life s)) {chore : Chore}
    (hmay : (life s).mayBegin p chore) :
    InForce { p with courses := p.courses ++ [⟨chore, [], chore.task s, false⟩] } where
  denyList_eq := h.denyList_eq
  reloads_eq := h.reloads_eq
  health_eq := h.health_eq
  loaded_perm := by simpa using h.loaded_perm
  led := by
    refine h.led.begins ?_
    cases chore with
    | startup n => exact .inl ⟨hmay, n, rfl⟩
    | refresh n => exact .inr ⟨fun _ => Chore.noConfusion, hmay.2⟩
    | request r =>
      obtain ⟨d, hd, hdone⟩ := hmay
      exact .inr ⟨fun _ => Chore.noConfusion, d, hd, started_of_done (hs d hd) hdone⟩
  served d hd r hr := by
    have hold : ∃ d ∈ p.courses, d.rest = .done (.started (.ok ())) := by
      rcases List.mem_append.1 hd with hd | hd
      · exact h.served d hd r hr
      · rw [List.mem_singleton.1 hd] at hr
        obtain rfl : chore = .request r := hr
        exact hmay
    obtain ⟨d, hd, hdone⟩ := hold
    exact ⟨d, List.mem_append_left _ hd, hdone⟩
  readings_mem d hd list hlist := by
    rcases List.mem_append.1 hd with hd | hd
    · exact h.readings_mem d hd list hlist
    · rw [List.mem_singleton.1 hd] at hlist
      cases hlist

section Answered

variable {x x' : Life} {before after : List Activity} {e : Errand}
  {next : errands.Answer e → Task Outcome} {a : errands.Answer e}

/-- A task that goes on is no reason to stop serving requests. -/
theorem InForce.served_told (h : InForce ⟨x, before ++ c :: after⟩) (hq : c.rest = .ask e next) :
    ∀ d ∈ before ++ c.told e a (next a) :: after, ∀ r, d.origin = .request r →
      ∃ d ∈ before ++ c.told e a (next a) :: after, d.rest = .done (.started (.ok ())) := by
  intro d hd r hr
  have hold : ∃ d ∈ before ++ c :: after, d.rest = .done (.started (.ok ())) := by
    obtain rfl | hd := mem_middle c hd
    · exact h.served c (by simp) r hr
    · exact h.served d hd r hr
  obtain ⟨d, hd, hdone⟩ := hold
  obtain rfl | hd := mem_middle (c.told e a (next a)) hd
  · rw [hq] at hdone
    cases hdone
  · exact ⟨d, hd, hdone⟩

theorem InForce.led_told (h : InForce ⟨x, before ++ c :: after⟩) :
    Led (before ++ c.told e a (next a) :: after) := by
  refine Led.goes_on h.led rfl fun hput hnil => hput ?_
  rw [Course.told, installs_append] at hnil
  exact (List.append_eq_nil_iff.1 hnil).1

/-- What was read is in force, by the tasks that went on before and by this one. -/
theorem InForce.readings_told (h : InForce ⟨x, before ++ c :: after⟩)
    (hsub : ∀ list ∈ x.loaded, list ∈ x'.loaded)
    (hnew : ∀ list ∈ readings [⟨e, a⟩], list ∈ x'.loaded) :
    ∀ d ∈ before ++ c.told e a (next a) :: after, ∀ list ∈ readings d.past, list ∈ x'.loaded := by
  intro d hd list hlist
  obtain rfl | hd := mem_middle c hd
  · rw [Course.told, readings_append] at hlist
    rcases List.mem_append.1 hlist with hlist | hlist
    · exact hsub list (h.readings_mem c (by simp) list hlist)
    · exact hnew list hlist
  · exact hsub list (h.readings_mem d hd list hlist)

theorem InForce.answered (h : InForce ⟨x, before ++ c :: after⟩)
    (hs : Pool.Sound (life s) ⟨x, before ++ c :: after⟩) (hq : c.rest = .ask e next)
    (ha : (life s).answers x e a x') : InForce ⟨x', before ++ c.told e a (next a) :: after⟩ := by
  have hreach := hs c (by simp)
  rw [hq] at hreach
  have hperm := h.loaded_perm
  simp only [List.flatMap_append, List.flatMap_cons] at hperm
  -- Either nothing moves, and a request may have read the list in force, or a load ends here.
  obtain ⟨hmoved, hi, hread⟩ | ⟨list, hrep, -, hi, hread, -⟩ :=
    answers_cases ((task_always s c.origin).asked_of_reaches hreach) ha
  · refine ⟨?_, ?_, ?_, ?_, h.led_told, h.served_told hq, h.readings_told ?_ ?_⟩
    · rw [hmoved.denyList_eq, hmoved.loaded_eq]
      exact h.denyList_eq
    · rw [hmoved.reloads_eq, hmoved.loaded_eq]
      exact h.reloads_eq
    · rw [hmoved.health_eq, hmoved.loaded_eq]
      exact h.health_eq
    · simpa [Course.told, hi, hmoved.loaded_eq] using hperm
    · intro list hlist
      rwa [hmoved.loaded_eq]
    · intro list hlist
      rw [hmoved.loaded_eq]
      obtain ⟨⟨r, hr⟩, hread⟩ | hread := hread
      · rw [hread] at hlist
        rw [List.mem_singleton.1 hlist]
        exact h.denyList_mem (h.loaded_of_request hs (by simp) hr)
      · rw [hread] at hlist
        cases hlist
  · refine ⟨?_, ?_, ?_, ?_, h.led_told, h.served_told hq, h.readings_told ?_ ?_⟩
    · rw [hrep.denyList_eq, hrep.loaded_eq, List.getLast?_concat]
      rfl
    · rw [hrep.reloads_eq, hrep.loaded_eq, h.reloads_eq, List.length_append, UInt64.ofNat_add]
      rfl
    · rw [hrep.health_eq, hrep.loaded_eq, if_neg (by simp)]
    · simp only [List.flatMap_append, List.flatMap_cons, Course.told, installs_append, hi,
        hrep.loaded_eq, List.append_assoc]
      -- The new list comes last of all, but in the order of the tasks it comes with its task.
      refine (hperm.append_right [list]).trans ?_
      simp only [List.append_assoc]
      exact (List.perm_append_comm.append_left _).append_left _
    · intro list hlist
      rw [hrep.loaded_eq]
      exact List.mem_append_left _ hlist
    · rw [hread]
      simp

end Answered

/-- Every step keeps the state in agreement. -/
theorem InForce.step (h : InForce p) (hs : p.Sound (life s)) (hstep : Pool.Step (life s) p p') :
    InForce p' := by
  cases hstep with
  | begins hmay => exact h.begins hs hmay
  | answered _ hq ha => exact h.answered hs hq ha
  | @abandoned x before c after =>
    have hpast : ∀ d ∈ before ++ { c with abandoned := true } :: after,
        ∃ e ∈ before ++ c :: after, e.origin = d.origin ∧ e.past = d.past := by
      intro d hd
      obtain rfl | hd := mem_middle c hd
      · exact ⟨c, by simp, rfl, rfl⟩
      · exact ⟨d, hd, rfl, rfl⟩
    refine ⟨h.denyList_eq, h.reloads_eq, h.health_eq, ?_, h.led.goes_on rfl id, ?_, ?_⟩
    · simpa using h.loaded_perm
    · intro d hd r hr
      obtain ⟨e, he, horigin, -⟩ := hpast d hd
      obtain ⟨f, hf, hdone⟩ := h.served e he r (horigin.trans hr)
      obtain rfl | hf := mem_middle { c with abandoned := true } hf
      · exact ⟨{ f with abandoned := true }, by simp, hdone⟩
      · exact ⟨f, hf, hdone⟩
    · intro d hd list hlist
      obtain ⟨e, he, -, hpast⟩ := hpast d hd
      exact h.readings_mem e he list (hpast ▸ hlist)

theorem inForce_of_reachable {now : Nat} (h : Pool.Reachable (life s) (atRest s now) p) :
    p.Sound (life s) ∧ InForce p := by
  induction h with
  | refl => exact ⟨fun c hc => absurd hc List.not_mem_nil, inForce_atRest s now⟩
  | tail _ hstep ih => exact ⟨hstep.sound ih.1, ih.2.step ih.1 hstep⟩

end Run

/-! ## The conduct of a task -/

/-- What a task has done about the deny-list, whatever the others do. -/
structure Conduct (s : Settings) (c : Activity) : Prop where
  /-- It puts a list in force once at most. -/
  installs_le_one : (installs c.past).length ≤ 1
  /-- That is the complete list of a load, which the calls before it fetched. -/
  complete : ∀ l list x r, c.past = l ++ ⟨.access (.install list), x⟩ :: r →
    Complete s.denyList l list ∧ ∀ request, c.origin ≠ .request request
  /-- It listens only when it has put a list in force. -/
  listens : ∀ address, .world (.listen address) ∈ c.asked → installs c.past ≠ []
  /-- It reads the list once at most. -/
  readings_le_one : (readings c.past).length ≤ 1
  /-- Where it serves a batch, nothing goes out before the list was read. -/
  decided : ∀ r, c.origin = .request r → ∀ who events, Holds r who events →
    ∀ e ∈ c.asked, e.Outward → ∃ list, readings c.past = [list]
  /-- At its end it tells what became of it. -/
  ended : ∀ o, c.rest = .done o → c.origin.Ended s c.past o

section Conduct

variable {s : Settings} {c : Activity}

/-- Every question of a task was asked after a part of what it was told. -/
theorem asks_of_mem_asked (h : (c.origin.task s).Reaches c.past c.rest) {e : Errand}
    (he : e ∈ c.asked) : ∃ l, l <+: c.past ∧ c.origin.Asks s l e := by
  have htask := task_always s c.origin
  rcases List.mem_append.1 he with he | he
  · obtain ⟨x, hx, rfl⟩ := List.mem_map.1 he
    obtain ⟨l, r, hpast⟩ := List.append_of_mem hx
    rw [hpast] at h
    exact ⟨l, hpast ▸ List.prefix_append _ _, htask.asked_of_split h⟩
  · cases hrest : c.rest with
    | done o =>
      rw [hrest] at he
      cases he
    | ask q next =>
      rw [hrest] at h he
      cases List.mem_singleton.1 he
      exact ⟨c.past, List.prefix_refl _, htask.asked_of_reaches h⟩

theorem installs_le_one (h : (c.origin.task s).Reaches c.past c.rest) :
    (installs c.past).length ≤ 1 := by
  refine (task_always s c.origin).invariant h (I := fun l => (installs l).length ≤ 1)
    (fun l e a he hl => ?_) (Nat.zero_le 1)
  rw [installs_append]
  obtain ⟨list, rfl, hi, -⟩ | ⟨rfl, -⟩ | ⟨address, rfl, -⟩ | he := asks_cases he
  · rw [hi]
    exact Nat.le_refl 1
  · show (installs l ++ []).length ≤ 1
    rwa [List.append_nil]
  · show (installs l ++ []).length ≤ 1
    rwa [List.append_nil]
  · rwa [installs_of_apart he, List.append_nil]

theorem readings_le_one (h : (c.origin.task s).Reaches c.past c.rest) :
    (readings c.past).length ≤ 1 := by
  refine (task_always s c.origin).invariant h (I := fun l => (readings l).length ≤ 1)
    (fun l e a he hl => ?_) (Nat.zero_le 1)
  rw [readings_append]
  obtain ⟨list, rfl, -⟩ | ⟨rfl, hr, -⟩ | ⟨address, rfl, -⟩ | he := asks_cases he
  · show (readings l ++ []).length ≤ 1
    rwa [List.append_nil]
  · rw [hr]
    exact Nat.le_refl 1
  · show (readings l ++ []).length ≤ 1
    rwa [List.append_nil]
  · rwa [readings_of_apart he, List.append_nil]

theorem conduct_of_reaches (h : (c.origin.task s).Reaches c.past c.rest) : Conduct s c where
  installs_le_one := installs_le_one h
  complete l list x r hpast := by
    rw [hpast] at h
    have hasks := (task_always s c.origin).asked_of_split h
    obtain ⟨list', he, -, hc, hnot⟩ | ⟨he, -⟩ | ⟨address, he, -⟩ | he := asks_cases hasks
    · cases he
      exact ⟨hc, hnot⟩
    · cases he
    · cases he
    · cases he
  listens address he := by
    obtain ⟨l, ⟨r, hpast⟩, hasks⟩ := asks_of_mem_asked h he
    obtain ⟨list', he, -⟩ | ⟨he, -⟩ | ⟨address, he, hi, -⟩ | he := asks_cases hasks
    · cases he
    · cases he
    · rw [← hpast, installs_append]
      exact fun hnil => hi (List.append_eq_nil_iff.1 hnil).1
    · cases he
  readings_le_one := readings_le_one h
  decided r hr who events hholds e he hout := by
    obtain ⟨l, ⟨k, hpast⟩, hasks⟩ := asks_of_mem_asked h he
    rw [hr] at hasks
    have hone := readings_le_one h
    obtain ⟨-, ⟨rfl, -⟩ | ⟨-, hread⟩⟩ := hasks
    · cases hout
    · obtain ⟨list, hl⟩ := hread who events hholds hout
      refine ⟨list, ?_⟩
      rw [← hpast, readings_append, hl] at hone ⊢
      have hk : readings k = [] := List.eq_nil_of_length_eq_zero (by simpa using hone)
      rw [hk]
      rfl
  ended o := ended_of_done h

end Conduct

/-! ## The life of a process -/

section Life

variable {s : Settings} {p p' : Pool errands Chore Outcome Life} {c : Activity}

/-- A process whose deny-list cannot be loaded does nothing else. -/
theorem alone_of_loadFailed (h : InForce p) (hs : p.Sound (life s)) (hc : c ∈ p.courses)
    {x : Except StartFailure Unit} (hdone : c.rest = .done (.started x)) (hx : LoadFailed x) :
    p.courses = [c] := by
  have hend := ended_of_done (hs c hc) hdone
  have hled := h.led
  cases horigin : c.origin with
  | refresh n =>
    rw [horigin] at hend
    cases hend
  | request r =>
    rw [horigin] at hend
    cases hend
  | startup n =>
    rw [horigin] at hend
    have hnone : installs c.past = [] := hend.2 hx
    cases hcourses : p.courses with
    | nil =>
      rw [hcourses] at hc
      cases hc
    | cons first rest =>
      rw [hcourses] at hc hled
      obtain ⟨-, hrest, hput⟩ := hled
      obtain rfl : c = first := by
        rcases List.mem_cons.1 hc with hc | hc
        · exact hc
        · exact absurd horigin (hrest c hc n)
      have hempty : rest = [] := Decidable.of_not_not fun hne => hput hne hnone
      rw [hempty]

/-- A step ends a load, or it moves nothing. -/
theorem step_cases (hs : p.Sound (life s)) (hstep : Pool.Step (life s) p p') :
    Unmoved p.state p'.state ∨ ∃ list, Replaced p.state p'.state list ∧
      ∃ c ∈ p.courses, installs c.past = [] ∧ Complete s.denyList c.past list := by
  cases hstep with
  | begins _ => exact .inl (.refl _)
  | abandoned => exact .inl (.refl _)
  | @answered x x' before c after e next a _ hq ha =>
    have hreach := hs c (by simp)
    rw [hq] at hreach
    obtain ⟨hmoved, -⟩ | ⟨list, hrep, hnone, -, -, hc, -⟩ :=
      answers_cases ((task_always s c.origin).asked_of_reaches hreach) ha
    · exact .inl hmoved
    · exact .inr ⟨list, hrep, c, by simp, hnone, hc⟩

end Life

/-- At every moment in the life of a process, the deny-list in force is that of the last load that
came to its end, each batch is decided by one such list, and a step other than the end of a load
leaves the list, its size, the counter of loads and the health of the deny-list as they were. -/
theorem deny_list_in_force (s : Settings) (now : Nat) {p : Pool errands Chore Outcome Life}
    (h : Pool.Reachable (life s) (atRest s now) p) :
    InForce p ∧ (∀ c ∈ p.courses, Conduct s c) ∧
      (∀ c ∈ p.courses, ∀ r, c.origin = .request r → p.state.loaded ≠ []) ∧
      (∀ c ∈ p.courses, ∀ x, c.rest = .done (.started x) → LoadFailed x → p.courses = [c]) ∧
      ∀ p', Pool.Step (life s) p p' →
        (Unmoved p.state p'.state ∨ ∃ list, Replaced p.state p'.state list ∧
          ∃ c ∈ p.courses, installs c.past = [] ∧ Complete s.denyList c.past list) ∧
        (p.state.state.health.denyList.healthy = true →
          p'.state.state.health.denyList.healthy = true) := by
  obtain ⟨hs, hin⟩ := inForce_of_reachable h
  refine ⟨hin, fun c hc => conduct_of_reaches (hs c hc), fun c hc r => hin.loaded_of_request hs hc,
    fun c hc x => alone_of_loadFailed hin hs hc,
    fun p' hstep => ⟨step_cases hs hstep, fun hp => ?_⟩⟩
  obtain hmoved | ⟨list, hrep, -⟩ := step_cases hs hstep
  · rw [hmoved.health_eq]
    exact hp
  · rw [hrep.health_eq]
    rfl

/-! ## A process that watches its deny-list -/

/-- A process that loads its deny-list again every minute. -/
def watched : Settings :=
  { Settings.default with
    quota := Authority.loopback
    denyList := ⟨"http://[::1]", 100, 60, 5000⟩ }

/-- The list of one rule. -/
def ruleOn (text : String) : DenyList := .ofRules [⟨text, ⟨.epoch, ""⟩⟩]

/-- A page of one rule. -/
def pageOf (text : String) : Http.Reply :=
  ⟨200, Text.bytes ("\x7b\"entries\":[\x7b\"prefix\":\"" ++ text ++
    "\",\"created\":\"1970-01-01T00:00:00Z\"\x7d]\x7d")⟩

/-- A world whose store serves one rule, and in which no broker answers. -/
def serving (text : String) : (q : World) → world.Answer q
  | .call call =>
    some (if call.url.query = some "limit=100&cursor=" then pageOf text
      else ⟨200, Text.bytes "\x7b\x7d"⟩)
  | q => secluded q

/-- The answers of a process in this world. -/
def living (text : String) : (q : Errand) → Life → errands.Answer q × Life
  | .world q, x => (serving text q, x)
  | .access step, x =>
    let answer := (x.state.access step).1
    (answer, ⟨(x.state.access step).2, x.loaded ++ installs [⟨.access step, answer⟩]⟩)

theorem living_answers (s : Settings) (text : String) (x : Life) (q : Errand) :
    (life s).answers x q (living text q x).1 (living text q x).2 := by
  cases q with
  | world q => exact rfl
  | access step => exact ⟨rfl, rfl⟩

/-- The process listens, with a rule on the source of an event in force. -/
def watching : Pool errands Chore Outcome Life :=
  ((atRest watched 0).begun (life watched) (.startup 2)).turn (living "source:s") 0 20

/-- It has begun to load the list again, and has fetched the first page, with another rule. -/
def watchingAgain : Pool errands Chore Outcome Life :=
  (watching.begun (life watched) (.refresh 2)).turn (living "source:r") 1 1

/-- A request with the event was served, and then the load came to its end. -/
def reloaded : Pool errands Chore Outcome Life :=
  (watchingAgain.begun (life watched) (.request onePosted)).turn (living "source:r") 2 20
    |>.turn (living "source:r") 1 20

/-- The process listens. -/
def Outcome.listens : Outcome → Bool
  | .started (.ok ()) => true
  | _ => false

theorem eq_started_of_listens {o : Outcome} (h : o.listens = true) : o = .started (.ok ()) := by
  match o, h with
  | .started (.ok ()), _ => rfl

/-- The status of an answer to a request. -/
def Outcome.status? : Outcome → Option Nat
  | .answered response => some response.status
  | _ => none

theorem listens_of_any {p : Pool errands Chore Outcome Life}
    (h : (p.courses.any fun c => c.rest.value?.any Outcome.listens) = true) :
    ∃ c ∈ p.courses, c.rest = .done (.started (.ok ())) := by
  obtain ⟨c, hc, hlistens⟩ := List.any_eq_true.1 h
  obtain ⟨o, ho, hlistens⟩ := (Option.any_eq_true _ _).1 hlistens
  exact ⟨c, hc, value?_eq_some.1 (ho.trans (congrArg some (eq_started_of_listens hlistens)))⟩

theorem reloaded_reachable : Pool.Reachable (life watched) (atRest watched 0) reloaded := by
  have hstart : Pool.Reachable (life watched) (atRest watched 0) watching :=
    .turn (living_answers watched _) 0 20 (.begun .refl rfl)
  have hput : ∃ c ∈ watching.courses, (∃ n, c.origin = .startup n) ∧ installs c.past ≠ [] := by
    obtain ⟨c, hc, hdone⟩ := listens_of_any (p := watching) (by decide +kernel)
    exact ⟨c, hc, started_of_done ((inForce_of_reachable hstart).1 c hc) hdone⟩
  have hagain : Pool.Reachable (life watched) (atRest watched 0) watchingAgain :=
    .turn (living_answers watched _) 1 1 (hstart.begun ⟨by decide, hput⟩)
  have hserves : ∃ c ∈ watchingAgain.courses, c.rest = .done (.started (.ok ())) :=
    listens_of_any (by decide +kernel)
  exact .turn (living_answers watched _) 1 20
    (.turn (living_answers watched _) 2 20 (hagain.begun hserves))

/-- While the next load was under way, the request was decided by the list in force and denied; then
the next list came into force. -/
theorem deny_list_in_force_reloaded :
    Pool.Reachable (life watched) (atRest watched 0) reloaded ∧
      reloaded.state.loaded = [ruleOn "source:s", ruleOn "source:r"] ∧
      reloaded.courses.map (fun c => readings c.past) = [[], [], [ruleOn "source:s"]] ∧
      reloaded.courses.map (fun c => c.rest.value?.bind Outcome.status?) =
        [none, none, some 403] ∧
      InForce reloaded ∧ ∀ c ∈ reloaded.courses, Conduct watched c := by
  have h := deny_list_in_force watched 0 reloaded_reachable
  exact ⟨reloaded_reachable, by decide +kernel, by decide +kernel, by decide +kernel, h.1, h.2.1⟩

end Sluice.Gateway
