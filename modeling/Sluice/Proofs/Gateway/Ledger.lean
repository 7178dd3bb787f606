import Mathlib.Algebra.BigOperators.Group.List.Basic
import Mathlib.Algebra.GroupWithZero.Nat
import Sluice.Proofs.Dialogue.Pool
import Sluice.Proofs.Gateway.Admission
import Sluice.Proofs.Quota.Authority

/-!
# The ledger of allowance

Any number of admissions go on side by side.  What they ask may be answered in any order and in any
way, with more than was asked for or more than was handed over, and each may be abandoned whenever
it waits.  The books of one admission are kept by what it asked of the quota authority and the sink,
answered or not: the permits, the events handed to the sink on the metered path, how many of them
were acknowledged, and the releases.

`Orderly` says what the books show at any time.  An admission that was given no permit hands over
and releases nothing (`Unpermitted`).  Under a permit, the events handed over and the units released
and acknowledged stay within it, the one release goes to the group of the publisher and the owner of
the permit, and an admission that came to its end has used the permit up to the unit (`Balanced`).

The proof brings an admission that stands somewhere to its end, by answers that give no permit
(`exists_completes`).  Its books at the end are those of a whole admission (`Admitted.settled`), and
the books now are a part of them, since what was asked is a prefix of what will have been asked.

No step wraps: `toNat_requestedCount`, `toNat_covered` and `toNat_unused` read the words of 32 bits
as numbers.
-/

namespace Sluice.Gateway

open Dialogue

/-! ## Entries -/

/-- The permit that an exchange gives. -/
def permit? : Exchange outside → Option Permit
  | ⟨.allocate _ _ _, .ok p⟩ => some p
  | _ => none

def permits (l : Transcript outside) : List Permit := l.filterMap permit?

/-- How many events handed over on the metered path an exchange acknowledges; no more count than
were handed over. -/
def acknowledgedIn : Exchange outside → Nat
  | ⟨.forward .metered events, .ok n⟩ => min n.toNat events.length
  | _ => 0

/-- The events acknowledged on the metered path. -/
def acknowledged (l : Transcript outside) : Nat := (l.map acknowledgedIn).sum

/-- The events that a question hands over on the metered path. -/
def metered? : Outside → Option (List Event)
  | .forward .metered events => some events
  | _ => none

/-- The batches handed over on the metered path, acknowledged or not. -/
def meteredBatches (l : List Outside) : List (List Event) := l.filterMap metered?

/-- The number of events handed over on the metered path. -/
def handed (l : List Outside) : Nat := ((meteredBatches l).map List.length).sum

/-- A release of units. -/
structure ReleaseOrder where
  groupId : String
  owner : String
  subject : Subject
  units : UInt32

/-- The release that a question is. -/
def release? : Outside → Option ReleaseOrder
  | .release groupId owner subject units => some ⟨groupId, owner, subject, units⟩
  | _ => none

/-- The releases issued, whatever became of them. -/
def releases (l : List Outside) : List ReleaseOrder := l.filterMap release?

def released (l : List Outside) : Nat := ((releases l).map (·.units.toNat)).sum

/-- The units that a question asks a permit for. -/
def requested? : Outside → Option UInt32
  | .allocate _ _ n => some n
  | _ => none

/-- The units that permits were asked for. -/
def requestedUnits (l : List Outside) : List UInt32 := l.filterMap requested?

/-- The count that an admission gives back; a fault gives back none. -/
def returned : Except Fault UInt32 → Nat
  | .ok n => n.toNat
  | .error _ => 0

section Entries

variable (x : Exchange outside) (q : Outside) (l k : Transcript outside) (m n : List Outside)

@[simp] theorem permits_nil : permits [] = [] := rfl

@[simp] theorem permits_append : permits (l ++ k) = permits l ++ permits k :=
  List.filterMap_append

@[simp] theorem permits_cons : permits (x :: l) = (permit? x).toList ++ permits l := by
  cases h : permit? x <;> simp [permits, h]

@[simp] theorem acknowledged_nil : acknowledged [] = 0 := rfl

@[simp] theorem acknowledged_append :
    acknowledged (l ++ k) = acknowledged l + acknowledged k := by
  simp [acknowledged]

@[simp] theorem acknowledged_cons : acknowledged (x :: l) = acknowledgedIn x + acknowledged l := by
  simp [acknowledged]

@[simp] theorem requestedUnits_nil : requestedUnits [] = [] := rfl

@[simp] theorem requestedUnits_append :
    requestedUnits (m ++ n) = requestedUnits m ++ requestedUnits n :=
  List.filterMap_append

@[simp] theorem requestedUnits_cons :
    requestedUnits (q :: m) = (requested? q).toList ++ requestedUnits m := by
  cases h : requested? q <;> simp [requestedUnits, h]

@[simp] theorem meteredBatches_nil : meteredBatches [] = [] := rfl

@[simp] theorem meteredBatches_append :
    meteredBatches (m ++ n) = meteredBatches m ++ meteredBatches n :=
  List.filterMap_append

@[simp] theorem meteredBatches_cons :
    meteredBatches (q :: m) = (metered? q).toList ++ meteredBatches m := by
  cases h : metered? q <;> simp [meteredBatches, h]

@[simp] theorem handed_nil : handed [] = 0 := rfl

@[simp] theorem handed_append : handed (m ++ n) = handed m + handed n := by
  simp [handed]

@[simp] theorem releases_nil : releases [] = [] := rfl

@[simp] theorem releases_append : releases (m ++ n) = releases m ++ releases n :=
  List.filterMap_append

@[simp] theorem releases_cons : releases (q :: m) = (release? q).toList ++ releases m := by
  cases h : release? q <;> simp [releases, h]

@[simp] theorem released_nil : released [] = 0 := rfl

@[simp] theorem released_cons :
    released (q :: m) = ((release? q).elim 0 (·.units.toNat)) + released m := by
  cases h : release? q <;> simp [released, h]

@[simp] theorem released_append : released (m ++ n) = released m + released n := by
  simp [released]

end Entries

/-! ## Words as numbers -/

theorem toNat_requestedCount (events : List Event) :
    (requestedCount events).toNat = min events.length (2 ^ 32 - 1) := by
  rw [requestedCount, UInt32.toNat_ofNat_of_lt'] <;> simp only [UInt32.size] <;> omega

theorem length_covered_le (permit : Permit) (events : List Event) :
    (events.take permit.granted.toNat).length ≤ permit.granted.toNat :=
  List.length_take_le _ _

/-- The number of events that a permit covers fits into a word. -/
theorem toNat_covered (permit : Permit) (events : List Event) :
    (UInt32.ofNat (events.take permit.granted.toNat).length).toNat =
      (events.take permit.granted.toNat).length := by
  have h := length_covered_le permit events
  have hp := permit.granted.toNat_lt
  exact UInt32.toNat_ofNat_of_lt' (by simp only [UInt32.size]; omega)

theorem toNat_unused (permit : Permit) (k : UInt32) (h : k.toNat ≤ permit.granted.toNat) :
    (unused permit k).toNat + k.toNat = permit.granted.toNat := by
  have hk : min permit.granted k = k := by
    rw [← UInt32.toNat_inj, UInt32.toNat_min]
    omega
  rw [unused, hk, UInt32.toNat_sub_of_le _ _ (UInt32.le_iff_toNat_le.2 h)]
  omega

/-! ## The books of a whole admission -/

section Settled

variable {who : Principal} {first : Event} {rest : List Event} {l : Transcript outside}
  {counts : List (Counter × UInt64)} {r : Except Fault UInt32} {permit : Permit} {units : UInt32}

theorem Notified.entries (h : Notified who permit first.source l counts) :
    permits l = [] ∧ acknowledged l = 0 ∧ meteredBatches (l.map (·.question)) = [] ∧
      releases (l.map (·.question)) = [] := by
  cases h <;> simp [permit?, acknowledgedIn, metered?, release?]

theorem Notified.requestedUnits (h : Notified who permit first.source l counts) :
    requestedUnits (l.map (·.question)) = [] := by
  cases h <;> simp [requested?]

/-- The units of a permit go back to the group of the publisher and the owner of the permit. -/
def ReleaseOrder.IsFor (e : ReleaseOrder) (who : Principal) (permit : Permit) : Prop :=
  e.groupId = who.groupId ∧ e.owner = permit.owner ∧ e.subject = Gateway.subject

theorem Released.entries (h : Released who permit units l) :
    permits l = [] ∧ acknowledged l = 0 ∧ meteredBatches (l.map (·.question)) = [] ∧
      released (l.map (·.question)) = units.toNat := by
  cases h with
  | nothing h0 => simp [h0]
  | once _ => simp [permit?, acknowledgedIn, metered?, release?]

theorem Released.requestedUnits (h : Released who permit units l) :
    requestedUnits (l.map (·.question)) = [] := by
  cases h <;> simp [requested?]

/-- There is one release at most, and it names the right ones. -/
theorem Released.orders (h : Released who permit units l) :
    (releases (l.map (·.question))).length ≤ 1 ∧
      ∀ e ∈ releases (l.map (·.question)), e.IsFor who permit := by
  cases h with
  | nothing _ => simp
  | once _ => simp [release?, ReleaseOrder.IsFor]

/-- The books of a whole admission under a permit. -/
structure Settled (who : Principal) (l : Transcript outside) (r : Except Fault UInt32)
    (permit : Permit) : Prop where
  permits_eq : permits l = [permit]
  /-- It covers what was handed over. -/
  handed_le : handed (l.map (·.question)) ≤ permit.granted.toNat
  releases_le_one : (releases (l.map (·.question))).length ≤ 1
  /-- They went to where they came from. -/
  isFor : ∀ e ∈ releases (l.map (·.question)), e.IsFor who permit
  balance : released (l.map (·.question)) + returned r = permit.granted.toNat
  /-- What the sink acknowledged is given back as the result. -/
  acknowledged_eq : acknowledged l = returned r

section Forward

variable {n : UInt32} {notice release : Transcript outside} {batch : List Event}
  {x : Except Fault UInt32}

theorem permits_forward (hn : Notified who permit first.source notice counts)
    (hr : Released who permit units release) :
    permits (⟨.allocate who subject n, .ok permit⟩ :: (notice ++
      ⟨.forward .metered batch, x⟩ :: release)) = [permit] := by
  obtain ⟨hp, -⟩ := hn.entries
  obtain ⟨hp', -⟩ := hr.entries
  simp [permit?, hp, hp']

theorem meteredBatches_forward (hn : Notified who permit first.source notice counts)
    (hr : Released who permit units release) :
    meteredBatches (List.map (·.question) (⟨.allocate who subject n, .ok permit⟩ :: (notice ++
      ⟨.forward .metered batch, x⟩ :: release))) = [batch] := by
  obtain ⟨-, -, hm, -⟩ := hn.entries
  obtain ⟨-, -, hm', -⟩ := hr.entries
  simp [metered?, hm, hm']

/-- Books are settled when what was released and what was acknowledged make up the permit. -/
theorem settled_of_forward (hn : Notified who permit first.source notice counts)
    (hr : Released who permit units release) (hle : batch.length ≤ permit.granted.toNat)
    (hu : units.toNat + returned r = permit.granted.toNat)
    (ha : acknowledgedIn ⟨.forward .metered batch, x⟩ = returned r) :
    Settled who (⟨.allocate who subject n, .ok permit⟩ :: (notice ++
      ⟨.forward .metered batch, x⟩ :: release)) r permit := by
  obtain ⟨-, hn0, -, he⟩ := hn.entries
  obtain ⟨-, hr0, -, hu'⟩ := hr.entries
  obtain ⟨h1, hfor⟩ := hr.orders
  refine ⟨permits_forward hn hr, ?_, ?_, ?_, ?_, ?_⟩
  · rw [handed, meteredBatches_forward hn hr]
    simpa using hle
  · simpa [release?, he] using h1
  · simpa [release?, he] using hfor
  · simpa [released, release?, he, ← hu'] using hu
  · simpa [acknowledgedIn, hn0, hr0] using ha

end Forward

/-- A whole admission got no permit and did nothing, or its books are settled. -/
theorem Admitted.settled (h : Admitted who first rest l counts r) :
    (permits l = [] ∧ meteredBatches (l.map (·.question)) = [] ∧
      releases (l.map (·.question)) = [] ∧ returned r = 0) ∨ ∃ permit, Settled who l r permit := by
  cases h with
  | refused => exact .inl (by simp [permit?, metered?, release?, returned])
  | @exhausted p notice counts hn h0 =>
    obtain ⟨hp, ha, hm, he⟩ := hn.entries
    refine .inr ⟨p, ?_, ?_, ?_, ?_, ?_, ?_⟩ <;>
      simp [handed, released, permit?, metered?, release?, acknowledgedIn, returned, *]
  | @failed p notice counts f release hn h0 hr =>
    exact .inr ⟨p, settled_of_forward hn hr (length_covered_le _ _) (Nat.add_zero _) rfl⟩
  | @acknowledged p notice counts n k release hn h0 hk hr =>
    have hle := length_covered_le p (first :: rest)
    have hkn : k.toNat = min n.toNat ((first :: rest).take p.granted.toNat).length := by
      rw [hk, UInt32.toNat_min, toNat_covered]
    have hu := toNat_unused p k (by omega)
    exact .inr ⟨p, settled_of_forward hn hr hle hu hkn.symm⟩

theorem Admitted.requestedUnits (h : Admitted who first rest l counts r) :
    requestedUnits (l.map (·.question)) = [requestedCount (first :: rest)] := by
  cases h with
  | refused => rfl
  | exhausted hn _ => simp [requested?, hn.requestedUnits]
  | failed hn _ hr => simp [requested?, hn.requestedUnits, hr.requestedUnits]
  | acknowledged hn _ _ hr => simp [requested?, hn.requestedUnits, hr.requestedUnits]

theorem Admitted.meteredBatches (h : Admitted who first rest l counts r) :
    ∀ events ∈ meteredBatches (l.map (·.question)),
      ∃ permit : Permit, events = (first :: rest).take permit.granted.toNat := by
  intro events he
  cases h with
  | refused => simp [metered?] at he
  | exhausted hn _ =>
    obtain ⟨-, -, hm, -⟩ := hn.entries
    simp [metered?, hm] at he
  | @failed p _ _ _ _ hn _ hr =>
    rw [meteredBatches_forward hn hr] at he
    exact ⟨p, List.mem_singleton.1 he⟩
  | @acknowledged p _ _ _ _ _ hn _ _ hr =>
    rw [meteredBatches_forward hn hr] at he
    exact ⟨p, List.mem_singleton.1 he⟩

theorem Notified.not_dropped (h : Notified who permit first.source l counts) (n : UInt64) :
    (.eventsDropped, n) ∉ counts := by
  cases h <;> simp

/-- What a count of dropped events has to do with the permit. -/
def DroppedBy (permit : Permit) (events : List Event) (n : UInt64) : Prop :=
  (permit.granted = 0 ∧ n.toNat = min events.length (2 ^ 32 - 1)) ∨
    ∃ d, n = UInt64.ofNat d ∧ d + permit.granted.toNat = events.length

theorem droppedBy_of_uncovered {events : List Event} {n : UInt64}
    (hn : Notified who permit first.source l counts)
    (h : (.eventsDropped, n) ∈ counts ++ uncovered permit events) :
    DroppedBy permit events n := by
  rw [List.mem_append, or_iff_right (hn.not_dropped n)] at h
  unfold uncovered at h
  split at h
  · rename_i hlt
    refine .inr ⟨events.length - permit.granted.toNat, by simpa using h, ?_⟩
    omega
  · cases h

/-- The events counted as dropped are those that the permit does not cover. -/
theorem Admitted.droppedBy (h : Admitted who first rest l counts r) :
    ∀ permit ∈ permits l, ∀ n, (.eventsDropped, n) ∈ counts →
      DroppedBy permit (first :: rest) n := by
  intro permit hmem n hc
  cases h with
  | refused => simp [permit?] at hmem
  | @exhausted p _ _ hn h0 =>
    obtain ⟨hp, -⟩ := hn.entries
    obtain rfl : permit = p := by simpa [permit?, hp] using hmem
    have hcount : n = (requestedCount (first :: rest)).toUInt64 := by
      simpa [hn.not_dropped n] using hc
    rw [hcount]
    exact .inl ⟨h0, by rw [UInt32.toNat_toUInt64, toNat_requestedCount]⟩
  | failed hn _ hr =>
    rw [permits_forward hn hr] at hmem
    obtain rfl := List.mem_singleton.1 hmem
    exact droppedBy_of_uncovered hn hc
  | acknowledged hn _ _ hr =>
    rw [permits_forward hn hr] at hmem
    obtain rfl := List.mem_singleton.1 hmem
    exact droppedBy_of_uncovered hn hc

end Settled

/-! ## A part of the books -/

section Part

variable {m n : List Outside}

theorem requestedUnits_mono (h : m <+: n) : requestedUnits m <+: requestedUnits n :=
  h.filterMap _

theorem meteredBatches_mono (h : m <+: n) : meteredBatches m <+: meteredBatches n :=
  h.filterMap _

theorem releases_mono (h : m <+: n) : releases m <+: releases n :=
  h.filterMap _

theorem handed_mono (h : m <+: n) : handed m ≤ handed n := by
  obtain ⟨k, rfl⟩ := h
  simp

theorem released_mono (h : m <+: n) : released m ≤ released n := by
  obtain ⟨k, rfl⟩ := h
  simp

theorem acknowledged_mono {l k : Transcript protocol} (h : l <+: k) :
    acknowledged (calls l) ≤ acknowledged (calls k) := by
  obtain ⟨k, rfl⟩ := h
  simp

end Part

/-! ## Side by side -/

/-- A batch, and who publishes it. -/
structure Batch where
  who : Principal
  events : List Event

/-- Admissions of any batches, answered in any way. -/
def admissions : Rules protocol Batch (Except Fault UInt32) Unit where
  dialogue b := admitBatch b.who b.events
  mayBegin _ _ := True
  answers _ _ _ _ := True

/-- An admission under way. -/
abbrev Admission := Course protocol Batch (Except Fault UInt32)

/-- What an admission called for, answered or not. -/
def called (c : Admission) : List Outside := c.asked.filterMap Question.call?

/-- The books of an admission that was not given a permit. -/
structure Unpermitted (c : Admission) : Prop where
  permits_eq : permits (calls c.past) = []
  handed_eq : handed (called c) = 0
  releases_eq : releases (called c) = []
  /-- In the end nothing is given back. -/
  returned_eq : ∀ r, c.rest = .done r → returned r = 0

/-- The books of an admission that was given a permit. -/
structure Balanced (c : Admission) (permit : Permit) : Prop where
  permits_eq : permits (calls c.past) = [permit]
  /-- No more events are handed over than it grants. -/
  handed_le : handed (called c) ≤ permit.granted.toNat
  releases_le_one : (releases (called c)).length ≤ 1
  /-- They go to where they came from. -/
  isFor : ∀ e ∈ releases (called c), e.IsFor c.origin.who permit
  /-- No more is released and acknowledged than it grants. -/
  spent_le : released (called c) + acknowledged (calls c.past) ≤ permit.granted.toNat
  /-- In the end nothing of it is left. -/
  balance : ∀ r, c.rest = .done r → released (called c) + returned r = permit.granted.toNat
  /-- The events counted as dropped are those that it does not cover. -/
  droppedBy : ∀ n, (.eventsDropped, n) ∈ counted c.past → DroppedBy permit c.origin.events n

/-- The books of an admission. -/
structure Orderly (c : Admission) : Prop where
  /-- A permit is asked for once at most. -/
  requests_le_one : (requestedUnits (called c)).length ≤ 1
  /-- It is asked for all events, as many as a word can tell. -/
  requests : ∀ n ∈ requestedUnits (called c), n.toNat = min c.origin.events.length (2 ^ 32 - 1)
  /-- The number of events handed over is not cut to a word. -/
  words : ∀ events ∈ meteredBatches (called c),
    (UInt32.ofNat events.length).toNat = events.length
  /-- What was granted is accounted for. -/
  account : Unpermitted c ∨ ∃ permit, Balanced c permit

/-! ### Bringing an admission to its end -/

/-- Answers that give no permit. -/
def refusing : (q : Question) → protocol.Answer q
  | .outside (.allocate _ _ _) => .error (.quotaUnavailable "")
  | .outside (.release _ _ _ _) => .ok ()
  | .outside (.forward _ _) => .ok 0
  | .outside .freshId => ""
  | .outside .wallClock => default
  | .outside .clock => 0
  | .access a => ((State.initial .empty 0 0).access a).1

theorem permits_calls_of_refusing {l : Transcript protocol}
    (h : ∀ x ∈ l, x.answer = refusing x.question) : permits (calls l) = [] := by
  induction l with
  | nil => rfl
  | cons x l ih =>
    obtain ⟨hx, hl⟩ := List.forall_mem_cons.1 h
    obtain ⟨q | a, x⟩ := x
    · cases q <;> simp_all [Outside.isCall, permit?, refusing]
    · simpa using ih hl

/-- The admission is on its way to the end of a whole one, with no further permit. -/
structure Completes (c : Admission) (first : Event) (rest : List Event) (l : Transcript protocol)
    (r : Except Fault UInt32) : Prop where
  admitted : Admitted c.origin.who first rest (calls l) (counted l) r
  /-- What was asked and answered is a part of it. -/
  past_part : c.past <+: l
  /-- What was called for is a part of it. -/
  called_part : called c <+: (calls l).map (·.question)
  permits_eq : permits (calls c.past) = permits (calls l)
  /-- At its end the admission is a whole one. -/
  ended : ∀ r', c.rest = .done r' → c.past = l ∧ r' = r

theorem exists_completes {c : Admission} {first : Event} {rest : List Event}
    (h : (admitBatch c.origin.who (first :: rest)).Reaches c.past c.rest) :
    ∃ l r, Completes c first rest l r := by
  -- From here on no answer gives a permit: the whole admission has what it was given before.
  obtain ⟨k, r, hk, hans⟩ := exists_end refusing c.rest
  refine ⟨c.past ++ k, r, ?_, List.prefix_append _ _, ?_, ?_, ?_⟩
  · exact ((admitBatch_ends c.origin.who first rest).of_reaches (h.trans hk)).1
  · rw [map_question_calls]
    exact (Course.asked_part hk).filterMap _
  · simp [permits_calls_of_refusing hans]
  · intro r' hr'
    rw [hr'] at hk
    cases hk
    exact ⟨(List.append_nil _).symm, rfl⟩

section Completes

variable {c : Admission} {first : Event} {rest : List Event} {l : Transcript protocol}
  {r : Except Fault UInt32} {permit : Permit}

theorem Completes.unpermitted (h : Completes c first rest l r) (hp : permits (calls l) = [])
    (hm : meteredBatches ((calls l).map (·.question)) = [])
    (hr : releases ((calls l).map (·.question)) = []) (hu : returned r = 0) : Unpermitted c where
  permits_eq := h.permits_eq.trans hp
  handed_eq := by
    have hm' := meteredBatches_mono h.called_part
    rw [hm] at hm'
    rw [handed, List.prefix_nil.1 hm']
    rfl
  releases_eq := by
    have hr' := releases_mono h.called_part
    rw [hr] at hr'
    exact List.prefix_nil.1 hr'
  returned_eq r' hr' := by
    obtain ⟨-, rfl⟩ := h.ended r' hr'
    exact hu

theorem Completes.balanced (h : Completes c first rest l r)
    (hs : Settled c.origin.who (calls l) r permit) (he : c.origin.events = first :: rest) :
    Balanced c permit where
  permits_eq := h.permits_eq.trans hs.permits_eq
  handed_le := Nat.le_trans (handed_mono h.called_part) hs.handed_le
  releases_le_one := Nat.le_trans (releases_mono h.called_part).length_le hs.releases_le_one
  isFor e he := hs.isFor e ((releases_mono h.called_part).subset he)
  spent_le := by
    have hr := released_mono h.called_part
    have ha := acknowledged_mono h.past_part
    have hb := hs.balance
    rw [← hs.acknowledged_eq] at hb
    omega
  balance r' hr' := by
    obtain ⟨hl, rfl⟩ := h.ended r' hr'
    have hc : called c = (calls l).map (·.question) := by
      rw [map_question_calls, called, Course.asked, hr', hl]
      simp [asking]
    rw [hc]
    exact hs.balance
  droppedBy n hn := by
    rw [he]
    refine h.admitted.droppedBy permit ?_ n ((h.past_part.filterMap _).subset hn)
    simp [hs.permits_eq]

theorem Completes.orderly (h : Completes c first rest l r) (he : c.origin.events = first :: rest) :
    Orderly c := by
  have hreq := requestedUnits_mono h.called_part
  rw [h.admitted.requestedUnits] at hreq
  refine ⟨hreq.length_le, ?_, ?_, ?_⟩
  · intro n hn
    rw [List.mem_singleton.1 (hreq.subset hn), toNat_requestedCount, he]
  · intro events hevents
    obtain ⟨p, rfl⟩ := h.admitted.meteredBatches events
      ((meteredBatches_mono h.called_part).subset hevents)
    exact toNat_covered p _
  · obtain ⟨hp, hm, hr, hu⟩ | ⟨permit, hs⟩ := h.admitted.settled
    · exact .inl (h.unpermitted hp hm hr hu)
    · exact .inr ⟨permit, h.balanced hs he⟩

end Completes

theorem orderly_of_reaches {c : Admission}
    (h : (admitBatch c.origin.who c.origin.events).Reaches c.past c.rest) : Orderly c := by
  cases he : c.origin.events with
  | nil =>
    rw [he] at h
    obtain ⟨origin, past, rest, abandoned⟩ := c
    cases h
    refine ⟨?_, ?_, ?_, .inl ⟨?_, ?_, ?_, ?_⟩⟩ <;> simp [called, Course.asked, asking, returned]
  | cons first rest =>
    rw [he] at h
    obtain ⟨l, r, hc⟩ := exists_completes h
    exact hc.orderly he

/-- In every pool of admissions, answered in any order and in any way, the books are in order.  A
permit from the client of the quota authority is for what the authority answered, but for no more
than was asked for. -/
theorem books_balance {p : Pool protocol Batch (Except Fault UInt32) Unit}
    (h : Pool.Reachable admissions ⟨(), []⟩ p) :
    (∀ c ∈ p.courses, Orderly c) ∧
      ∀ (s : QuotaSettings) (who : Principal) (subject : Subject) (n : UInt32)
        (l : Transcript Authority.protocol) (permit : Permit),
        (Authority.allocate s who subject n).Reaches l (.done (.ok permit)) →
          ∃ said, Authority.Answered l said ∧ permit = Authority.capped n said ∧
            permit.granted.toNat = min said.granted.toNat n.toNat := by
  refine ⟨fun c hc => ?_, fun s who subject n l permit hl => ?_⟩
  · exact orderly_of_reaches (Pool.Reachable.sound h (by simp [Pool.Sound]) c hc)
  · obtain ⟨said, hs, rfl⟩ := (Authority.allocate_ends s who subject n).of_reaches hl permit rfl
    exact ⟨said, hs, rfl, UInt32.toNat_min _ _⟩

/-- The permit of five events for an owner. -/
def fivePermitted : Permit := ⟨5, "owner", false⟩

/-- A batch of two events. -/
def twoEvents : Batch := ⟨⟨"group", "user"⟩, [.make "1" "s" "t", .make "2" "s" "t"]⟩

/-- Two admissions of two events under permits for five.  The sink acknowledged one event of the
first, whose other four units went back; the second is abandoned while the sink is at work. -/
def twoAdmissions : Pool protocol Batch (Except Fault UInt32) Unit :=
  ⟨(),
    [⟨twoEvents,
      [⟨.outside (.allocate twoEvents.who subject 2), .ok fivePermitted⟩,
        ⟨.outside (.forward .metered twoEvents.events), .ok 1⟩,
        ⟨.outside (.release "group" "owner" subject 4), .ok ()⟩],
      .done (.ok 1), false⟩,
    ⟨twoEvents,
      [⟨.outside (.allocate twoEvents.who subject 2), .ok fivePermitted⟩],
      forwardCovered twoEvents.who fivePermitted twoEvents.events, true⟩]⟩

theorem twoAdmissions_sound : twoAdmissions.Sound admissions := by
  intro c hc
  rcases List.mem_cons.1 hc with rfl | hc
  · exact .onward (.onward (.onward .here))
  · cases List.mem_singleton.1 hc
    exact .onward .here

theorem twoAdmissions_reachable : Pool.Reachable admissions ⟨(), []⟩ twoAdmissions :=
  twoAdmissions_sound.reachable (fun _ _ => trivial) fun _ _ _ => trivial

/-- An authority that answers every call with a permit for five events. -/
def generous : (q : Authority.Question) → Authority.protocol.Answer q
  | .call _ => some ⟨200, Text.bytes "\x7b\"grantedCount\":5,\"ownerId\":\"owner\"\x7d"⟩
  | .count _ => ()

/-- What the client asks it for a permit for two events, and the permit that it gives. -/
def twoAllocated : Transcript Authority.protocol × Except Fault Permit :=
  (Authority.allocate Authority.loopback twoEvents.who subject 2).play (fun _ => generous) []

theorem twoAllocated_reaches :
    (Authority.allocate Authority.loopback twoEvents.who subject 2).Reaches twoAllocated.1
      (.done (.ok ⟨2, "owner", false⟩)) := by
  have hpermit : twoAllocated.2 = .ok ⟨2, "owner", false⟩ := by decide +kernel
  rw [← hpermit]
  exact reaches_play _ _

/-- The books of two admissions under way; and a permit for five events, of which the client takes
the two that it asked for. -/
theorem books_balance_twoAdmissions :
    Pool.Reachable admissions ⟨(), []⟩ twoAdmissions ∧
      (twoAdmissions.courses.map fun c => handed (called c)) = [2, 2] ∧
      (twoAdmissions.courses.map fun c => released (called c)) = [4, 0] ∧
      (∀ c ∈ twoAdmissions.courses, Orderly c) ∧
      (Authority.allocate Authority.loopback twoEvents.who subject 2).Reaches twoAllocated.1
        (.done (.ok ⟨2, "owner", false⟩)) ∧
      ∃ said, Authority.Answered twoAllocated.1 said ∧
        ⟨2, "owner", false⟩ = Authority.capped 2 said ∧ 2 = min said.granted.toNat 2 := by
  obtain ⟨horderly, hallocate⟩ := books_balance twoAdmissions_reachable
  exact ⟨twoAdmissions_reachable, rfl, rfl, horderly, twoAllocated_reaches,
    hallocate Authority.loopback twoEvents.who subject 2 twoAllocated.1 _ twoAllocated_reaches⟩

end Sluice.Gateway
