import Sluice.Proofs.DenyList.Load
import Sluice.Proofs.Gateway.Routes

/-!
# What tasks do to the deny-list

A process has three kinds of tasks: it starts, it loads the deny-list again, and it serves requests.
`StartAsks`, `LoadAsks` and `ServeAsks` say what each may ask after what it was told, as far as the
deny-list is concerned, and `StartEnded`, `LoadEnded` and `ServeEnded` how each ends.

A list is put in force by a task only that has just fetched all its pages (`Complete`), once at
most.  Nobody listens before that, and a request reads the list once at most and puts none in force.
-/

namespace Sluice.Gateway

open Dialogue

/-! ## Readings and installations -/

/-- The deny-lists that were read. -/
def readings (l : Transcript errands) : List DenyList :=
  l.filterMap fun
    | ⟨.access .denyList, list⟩ => some list
    | _ => none

/-- The deny-lists that were put in force. -/
def installs (l : Transcript errands) : List DenyList :=
  l.filterMap fun
    | ⟨.access (.install list), _⟩ => some list
    | _ => none

@[simp] theorem readings_nil : readings [] = [] := rfl

@[simp] theorem readings_append (l k : Transcript errands) :
    readings (l ++ k) = readings l ++ readings k := List.filterMap_append

@[simp] theorem installs_nil : installs [] = [] := rfl

@[simp] theorem installs_append (l k : Transcript errands) :
    installs (l ++ k) = installs l ++ installs k := List.filterMap_append

theorem readings_of_apart {q : Errand} (h : q.Apart) (a : errands.Answer q) :
    readings [⟨q, a⟩] = [] := by
  cases q with
  | world w => rfl
  | access s => cases s <;> first | rfl | exact absurd h id

theorem installs_of_apart {q : Errand} (h : q.Apart) (a : errands.Answer q) :
    installs [⟨q, a⟩] = [] := by
  cases q with
  | world w => rfl
  | access s => cases s <;> first | rfl | exact absurd h id

/-- What leaves the deny-list alone adds neither a reading nor an installation. -/
theorem always_apart {α : Type} {kind : Errand → Prop} {t : Task α} (h : t.Asks kind)
    (hk : ∀ e, kind e → e.Apart) {past : Transcript errands} {read put : List DenyList}
    (hr : readings past = read) (hi : installs past = put) :
    t.Always (fun l e => kind e ∧ readings l = read ∧ installs l = put)
      (fun l _ => readings l = read ∧ installs l = put) past := by
  refine h.always (fun l e a he hl => ?_) ⟨hr, hi⟩
  rw [readings_append, installs_append, readings_of_apart (hk e he), installs_of_apart (hk e he),
    List.append_nil, List.append_nil]
  exact hl

/-! ## Loads -/

/-- The errand is a call to a server. -/
def Errand.IsCall (e : Errand) : Prop := ∃ c, e = .world (.call c)

/-- The list is that of all pages of one load, from the first to the empty one, and these are the
calls that fetched them. -/
def Complete (s : DenyListSettings) (l : Transcript errands) (list : DenyList) : Prop :=
  ∃ k pages, Answered (pageAnswer s) k l ∧ DenyLoad.Paged s.pageSize "" k pages ∧
    list = DenyList.ofRules pages.flatten

theorem pageAnswer_asks (s : DenyListSettings) (q : DenyLoad.PageRequest) :
    (pageAnswer s q : Task _).Asks Errand.IsCall := by
  unfold pageAnswer DenyStore.page
  cases DenyStore.pageUrl s q with
  | error f => exact asks_pure
  | ok url => exact .ask ⟨_, rfl⟩ fun reply => asks_pure

/-- A load does nothing but fetch its pages. -/
theorem load_always (s : DenyListSettings) (pages : Nat) :
    ((DenyLoad.start.run s.pageSize pages).run (pageAnswer s) :
        Task (Option (Except Fault DenyList))).Always
      (fun l e => e.IsCall ∧ installs l = [])
      (fun l r => installs l = [] ∧ ∀ list, r = some (.ok list) → Complete s l list) [] := by
  have hstep (k : Transcript DenyLoad.store) (l : Transcript errands) (q : DenyLoad.PageRequest)
      (hl : installs l = []) (_ : True) :
      (pageAnswer s q : Task _).Always (fun l e => e.IsCall ∧ installs l = [])
        (fun l' _ => installs l' = []) l := by
    refine (pageAnswer_asks s q).always (fun l e a he hl => ?_) hl
    obtain ⟨c, rfl⟩ := he
    rw [installs_append, hl]
    rfl
  have hload := (DenyLoad.start_ends s.pageSize pages).always
  refine (hload.run hstep .nil rfl).mono (fun _ _ => id) ?_
  rintro l r ⟨k, hk, hl, hr⟩
  refine ⟨hl, fun list hlist => ?_⟩
  obtain ⟨ps, hps, rfl⟩ := hr list hlist
  exact ⟨k, ps, hk, hps, rfl⟩

/-- What a load does next: it fetches a page, or puts in force the list of all its pages. -/
def LoadAsks (s : DenyListSettings) (past : Transcript errands) (e : Errand) : Prop :=
  installs past = [] ∧ (e.IsCall ∨ ∃ list, e = .access (.install list) ∧ Complete s past list)

/-- How a load ends: it put a list in force and tells its size, or it did not. -/
def LoadEnded (l : Transcript errands) (r : Option (Except Fault Nat)) : Prop :=
  (∃ list, installs l = [list] ∧ r = some (.ok list.size)) ∨
    installs l = [] ∧ ∀ n, r ≠ some (.ok n)

theorem reload_always (s : DenyListSettings) (pages : Nat) :
    (reload s pages : Task (Option (Except Fault Nat))).Always (LoadAsks s) LoadEnded [] := by
  unfold reload
  rw [always_bind]
  refine (load_always s pages).mono (fun l e he => ⟨he.2, .inl he.1⟩) fun l r hr => ?_
  obtain ⟨hl, hlist⟩ := hr
  match r with
  | none =>
    refine always_pure.2 (.inr ⟨hl, ?_⟩)
    rintro n ⟨⟩
  | some (.error f) =>
    refine always_pure.2 (.inr ⟨hl, ?_⟩)
    rintro n ⟨⟩
  | some (.ok list) =>
    refine always_ask.2 ⟨⟨hl, .inr ⟨list, rfl, hlist list rfl⟩⟩, fun x => ?_⟩
    refine always_pure.2 (.inl ⟨list, ?_, rfl⟩)
    rw [installs_append, hl]
    rfl

/-- What a process does next that starts: it loads the list, and when that is in force looks around
and listens. -/
def StartAsks (s : DenyListSettings) (past : Transcript errands) (e : Errand) : Prop :=
  LoadAsks s past e ∨ installs past ≠ [] ∧ (e.Apart ∨ ∃ address, e = .world (.listen address))

/-- The process does not start since its deny-list cannot be loaded. -/
def LoadFailed (r : Except StartFailure Unit) : Prop :=
  (∃ f, r = .error (.denyList f)) ∨ r = .error .endlessDenyList

/-- How it ends: it tells a failed load if and only if no list was put in force. -/
def StartEnded (l : Transcript errands) (r : Except StartFailure Unit) : Prop :=
  installs l = [] ↔ LoadFailed r

theorem prepare_always (s : Settings) (pages : Nat) :
    (prepare s pages : Task (Except StartFailure Unit)).Always (StartAsks s.denyList) StartEnded
      [] := by
  unfold prepare
  rw [always_bind]
  refine (reload_always s.denyList pages).mono (fun l e he => .inl he) fun l r hr => ?_
  match r with
  | none =>
    obtain ⟨list, -, hr⟩ | ⟨hl, -⟩ := hr
    · cases hr
    · exact always_pure.2 ⟨fun _ => .inr rfl, fun _ => hl⟩
  | some (.error f) =>
    obtain ⟨list, -, hr⟩ | ⟨hl, -⟩ := hr
    · cases hr
    · exact always_pure.2 ⟨fun _ => .inl ⟨f, rfl⟩, fun _ => hl⟩
  | some (.ok n) =>
    obtain ⟨list, hl, -⟩ | ⟨-, hne⟩ := hr
    · rw [always_bind]
      refine (always_apart (probe_asks s) (fun _ => id) rfl hl).mono (fun l e he => ?_)
        fun l _ hl => ?_
      · refine .inr ⟨?_, .inl he.1⟩
        rw [he.2.2]
        exact List.cons_ne_nil _ _
      · have hput : installs l ≠ [] := by
          rw [hl.2]
          exact List.cons_ne_nil _ _
        cases addressOf? s with
        | none =>
          refine always_pure.2 ⟨fun h => absurd h hput, ?_⟩
          rintro (⟨f, ⟨⟩⟩ | ⟨⟨⟩⟩)
        | some address =>
          refine always_ask.2 ⟨.inr ⟨hput, .inr ⟨address, rfl⟩⟩, fun x => ?_⟩
          refine always_pure.2 ⟨fun h => ?_, ?_⟩
          · rw [installs_append] at h
            exact absurd (List.append_eq_nil_iff.1 h).1 hput
          · cases x with
            | error reason => rintro (⟨f, ⟨⟩⟩ | ⟨⟨⟩⟩)
            | ok _ => rintro (⟨f, ⟨⟩⟩ | ⟨⟨⟩⟩)
    · exact absurd rfl (hne n)

/-! ## Requests -/

/-- The errand goes to the quota authority or the brokers. -/
def Errand.Outward : Errand → Prop
  | .world (.call _) | .world (.connect _ _) | .world (.topics _) | .world (.lookUp _)
  | .world (.produce _ _ _) => True
  | _ => False

/-- What a request does next: it reads the deny-list for the first time, or it leaves it alone.
Where it holds a batch, nothing goes out before the list was read. -/
def ServeAsks (r : Request) (past : Transcript errands) (e : Errand) : Prop :=
  installs past = [] ∧ (e = .access .denyList ∧ readings past = [] ∨
    e.Apart ∧ ∀ who events, Holds r who events → e.Outward → ∃ list, readings past = [list])

/-- How it ends: a batch comes to what is published under the one list that was read. -/
def ServeEnded (s : Settings) (r : Request) (l : Transcript errands) : Prop :=
  ∀ who events, Holds r who events → ∃ k list x, Answered (requestAnswer s) k l ∧
    readings l = [list] ∧ consulted k = [list] ∧ Published who list events k x

theorem collaborator_aside (s : Settings) {q : Outside} (h : q.isCall = false) :
    (collaborator s q : Task _).Asks fun e : Errand => e.Apart ∧ ¬e.Outward := by
  cases q with
  | allocate _ _ _ => cases h
  | release _ _ _ _ => cases h
  | forward _ _ => cases h
  | freshId => exact asks_question.2 ⟨trivial, id⟩
  | wallClock => exact asks_question.2 ⟨trivial, id⟩
  | clock => exact asks_question.2 ⟨trivial, id⟩

section Serve

variable {s : Settings} {r : Request} {k : Transcript protocol} {l : Transcript errands}

/-- The collaborators neither read the deny-list nor put one in force. -/
theorem collaborator_always {q : Outside} (hr : readings l = consulted k) (hi : installs l = [])
    (hd : ∀ who events, Holds r who events → Decided k (.outside q)) :
    (collaborator s q : Task _).Always (ServeAsks r)
      (fun l' a => readings l' = consulted (k ++ [⟨.outside q, a⟩]) ∧ installs l' = []) l := by
  have hview (a : outside.Answer q) : consulted (k ++ [⟨.outside q, a⟩]) = consulted k :=
    consulted_snoc_of_apart (q := .outside q) trivial k a
  simp only [hview]
  cases hcall : q.isCall with
  | true =>
    have hapart := always_apart (collaborator_asks s q) (fun _ => id) hr hi
    refine hapart.mono (fun l' e he => ?_) fun _ _ => id
    refine ⟨he.2.2, .inr ⟨he.1, fun who events hh _ => ?_⟩⟩
    rw [he.2.1]
    exact hd who events hh q rfl hcall
  | false =>
    have haside := collaborator_aside s hcall
    refine (always_apart haside (fun _ he => he.1) hr hi).mono (fun l' e he => ?_) fun _ _ => id
    exact ⟨he.2.2, .inr ⟨he.1.1, fun _ _ _ hout => absurd hout he.1.2⟩⟩

/-- A step of a request on the state reads the deny-list once at most, and puts none in force. -/
theorem access_always {a : Access} (hr : readings l = consulted k) (hi : installs l = [])
    (hs : Steady k (.access a)) :
    (requestAnswer s (.access a) : Task _).Always (ServeAsks r)
      (fun l' x => readings l' = consulted (k ++ [⟨.access a, x⟩]) ∧ installs l' = []) l := by
  have hone (h : ServeAsks r l (.access a))
      (hnext : ∀ x : a.Answer, readings [⟨.access a, x⟩] = consulted [⟨.access a, x⟩] ∧
        installs [⟨.access a, x⟩] = []) :
      (requestAnswer s (.access a) : Task _).Always (ServeAsks r)
        (fun l' x => readings l' = consulted (k ++ [⟨.access a, x⟩]) ∧ installs l' = []) l := by
    refine always_question.2 ⟨h, fun x => ?_⟩
    rw [readings_append, installs_append, consulted_append, hr, hi, (hnext x).1, (hnext x).2]
    exact ⟨rfl, rfl⟩
  by_cases hlist : a = .denyList
  · subst hlist
    exact hone ⟨hi, .inl ⟨rfl, hr.trans hs⟩⟩ fun _ => ⟨rfl, rfl⟩
  · have hapart : a.Apart := by
      cases a <;> first | exact hs | exact absurd rfl hlist
    refine hone ⟨hi, .inr ⟨hapart, fun _ _ _ hout => absurd hout id⟩⟩ fun x => ⟨?_, ?_⟩
    · rw [readings_of_apart (q := .access a) hapart]
      exact (consulted_snoc_of_apart (q := .access a) hapart [] x).symm
    · exact installs_of_apart (q := .access a) hapart x

theorem serve_always (s : Settings) (r : Request) :
    (serve s r : Task Response).Always (ServeAsks r) (fun l _ => ServeEnded s r l) [] := by
  have hstep (k : Transcript protocol) (l : Transcript errands) (q : Question)
      (hv : readings l = consulted k ∧ installs l = [])
      (hq : Steady k q ∧ ∀ who events, Holds r who events → Decided k q) :
      (requestAnswer s q : Task _).Always (ServeAsks r)
        (fun l' a => readings l' = consulted (k ++ [⟨q, a⟩]) ∧ installs l' = []) l := by
    cases q with
    | outside o => exact collaborator_always hv.1 hv.2 hq.2
    | access a => exact access_always hv.1 hv.2 hq.1
  have hhandle := handle_always s.internal r
  refine (hhandle.run hstep .nil ⟨rfl, rfl⟩).mono (fun _ _ => id) ?_
  rintro l answer ⟨k, hk, ⟨hr, hi⟩, hend⟩ who events hh
  obtain ⟨list, x, hlist, hp⟩ := hend who events hh
  exact ⟨k, list, x, hk, hr.trans hlist, hlist, hp⟩

end Serve

end Sluice.Gateway
