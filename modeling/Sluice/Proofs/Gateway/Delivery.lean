import Mathlib.Algebra.Order.BigOperators.Group.List
import Mathlib.Algebra.Order.Ring.Nat
import Sluice.Proofs.Gateway.Requests

/-!
# What reaches the broker

One producer writes the records of both paths.  `deliver` is a request whose sink is the producer,
so that what is left to be asked are the quota authority, the clocks, the state and the broker;
`serve_eq_deliver` says that this is how requests are served.  Any number of them go on side by
side, are answered in any way and are abandoned at any time.

`Delivered` says of each what the broker was given so far.  The records that say `metered` are the
stamped events of a posted batch, in order and within its permit (`MeteredRecords`).  A record that
says `internal` is the one notice about a permit, or the one event of the internal path, which had a
token (`InternalRecords`).

A request under way is brought to its end by answers that give neither permits nor tokens.  What it
called for as a whole is known from `handle_ends`, each time it forwards the producer hands over all
of the records or none (`Sent`), and what was handed over so far is a part of that.
-/

namespace Sluice.Gateway

open Dialogue
open Broker (Record RecordsOf)

/-! ## The producer as the sink -/

/-- The questions of a request that come to others than the sink, and those of the producer. -/
inductive Delivering where
  | request (question : Question)
  | broker (question : Broker.Question)

abbrev delivering : Protocol where
  Question := Delivering
  Answer
    | .request q => protocol.Answer q
    | .broker q => Broker.protocol.Answer q

/-- What is forwarded goes to the producer, and everything else is asked on. -/
def sinkAnswer (s : BrokerSettings) : (q : Question) → Dialogue delivering (protocol.Answer q)
  | .outside (.forward origin events) =>
    (Broker.produce s origin events).run fun q => .question (P := delivering) (.broker q)
  | q => .question (P := delivering) (.request q)

/-- A request whose sink is the producer. -/
def deliver (s : Settings) (r : Request) : Dialogue delivering Response :=
  (handle s.internal r).run (sinkAnswer s.broker)

/-- How a process answers the questions. -/
def deliveryAnswer (s : Settings) : (q : Delivering) → Task (delivering.Answer q)
  | .request q => requestAnswer s q
  | .broker q => brokerAnswer q

theorem serve_eq_deliver (s : Settings) (r : Request) :
    (serve s r : Task Response) = (deliver s r).run (deliveryAnswer s) := by
  unfold serve deliver
  rw [run_run]
  congr 1
  funext q
  cases q with
  | access a => exact (bind_pure _).symm
  | outside o =>
    cases o with
    | forward origin events =>
      show (Broker.produce s.broker origin events).run brokerAnswer = _
      unfold sinkAnswer
      rw [run_run]
      congr 1
      funext q
      exact (bind_pure _).symm
    | allocate who subject n => exact (bind_pure _).symm
    | release groupId owner subject n => exact (bind_pure _).symm
    | freshId => exact (bind_pure _).symm
    | wallClock => exact (bind_pure _).symm
    | clock => exact (bind_pure _).symm

/-! ## Records and permits -/

/-- The question of the producer that a question is. -/
def Delivering.broker? : Delivering → Option Broker.Question
  | .broker q => some q
  | .request _ => none

/-- The records that the broker was given. -/
def handedOver (l : List Delivering) : List Record :=
  Broker.handedRecords (l.filterMap Delivering.broker?)

/-- The record says that it came by a path. -/
def saysOrigin (o : Origin) (x : Record) : Bool :=
  x.headers.lookup "origin" == some (Text.bytes o.name)

/-- The records that say that they came by a path. -/
def recordsFrom (o : Origin) (l : List Delivering) : List Record :=
  (handedOver l).filter (saysOrigin o)

/-- The exchange of the request itself that an exchange is. -/
def own? : Exchange delivering → Option (Exchange protocol)
  | ⟨.request q, a⟩ => some ⟨q, a⟩
  | ⟨.broker _, _⟩ => none

/-- What the request itself asked and was answered. -/
def own (l : Transcript delivering) : Transcript protocol := l.filterMap own?

/-- The question goes to the quota authority. -/
def Delivering.IsQuota : Delivering → Prop
  | .request (.outside (.allocate _ _ _)) | .request (.outside (.release _ _ _ _)) => True
  | _ => False

abbrev Delivery := Course delivering Request Response

/-- The permits that a request was given. -/
def permitsOf (c : Delivery) : List Permit := permits (calls (own c.past))

/-- The metered records of a request. -/
inductive MeteredRecords (r : Request) (given : List Permit) : List Record → Prop where
  | nothing : MeteredRecords r given []
  /-- They are the first events of its batch with the stamp, as many as its permit covers or
  less. -/
  | covered {who events permit now l} : Holds r who events → given = [permit] →
    l.length ≤ permit.granted.toNat →
    List.Forall₂ (fun e x => ∃ e' made, Stamped who now e e' ∧ x = Record.ofEvent e' .metered made)
      (events.take l.length) l →
    MeteredRecords r given l

/-- The internal records of a request. -/
inductive InternalRecords (s : InternalSettings) (r : Request) (given : List Permit)
    (past : Transcript protocol) : List Record → Prop where
  | nothing : InternalRecords s r given past []
  /-- The owner of its permit is told that it used the allowance up. -/
  | notice {who first rest permit id made} : Holds r who (first :: rest) → given = [permit] →
    permit.justExhausted = true → permit.owner ≠ "" → permit.owner ≠ first.source →
    InternalRecords s r given past
      [Record.ofEvent (Notice.make id first.source who.groupId permit.owner) .internal made]
  /-- It posts an event by the internal path, and was given a token. -/
  | event {who e e' time now made} : HoldsInternal r who e →
    ⟨.access (.token time), .admitted⟩ ∈ past → Stamped who now (mark s e) e' →
    InternalRecords s r given past [Record.ofEvent e' .internal made]

/-- What a request gave to the broker so far. -/
structure Delivered (s : InternalSettings) (c : Delivery) : Prop where
  /-- Every record says how it came. -/
  said : ∀ x ∈ handedOver c.asked, saysOrigin .metered x = true ∨ saysOrigin .internal x = true
  metered : MeteredRecords c.origin (permitsOf c) (recordsFrom .metered c.asked)
  internal :
    InternalRecords s c.origin (permitsOf c) (own c.past) (recordsFrom .internal c.asked)
  /-- The internal path leaves the allowance alone. -/
  unmetered : Route.ofPath? c.origin.path = some .internal →
    recordsFrom .metered c.asked = [] ∧ ∀ q ∈ c.asked, ¬q.IsQuota

/-! ## What is sent and what is handed over -/

/-- What an exchange sends, and by which path. -/
def outgoing? : Exchange outside → Option (Origin × List Event)
  | ⟨.forward origin events, _⟩ => some (origin, events)
  | _ => none

def outgoing (l : Transcript outside) : List (Origin × List Event) := l.filterMap outgoing?

@[simp] theorem outgoing_nil : outgoing [] = [] := rfl

@[simp] theorem outgoing_append (l k : Transcript outside) :
    outgoing (l ++ k) = outgoing l ++ outgoing k :=
  List.filterMap_append

@[simp] theorem outgoing_cons (x : Exchange outside) (l : Transcript outside) :
    outgoing (x :: l) = (outgoing? x).toList ++ outgoing l := by
  cases h : outgoing? x <;> simp [outgoing, h]

/-- Nothing of what is sent is handed over, or a record of each event. -/
def Sent (f : Origin × List Event) (l : List Record) : Prop := l = [] ∨ RecordsOf f.1 f.2 l

def Question.isForward : Question → Bool
  | .outside (.forward _ _) => true
  | _ => false

section View

/-- What the producer asks is asked on as it is. -/
theorem exists_of_reaches {α : Type} {d : Dialogue Broker.protocol α} {a : α}
    {l : Transcript delivering}
    (h : (d.run fun q => Dialogue.question (P := delivering) (.broker q)).Reaches l (.done a)) :
    ∃ k : Transcript Broker.protocol, d.Reaches k (.done a) ∧ own l = [] ∧
      handedOver (l.map (·.question)) = Broker.handedRecords (k.map (·.question)) := by
  induction d generalizing l with
  | done b =>
    cases h
    exact ⟨[], .here, rfl, rfl⟩
  | ask q next ih =>
    cases h with
    | @onward _ _ x l' _ hl =>
      obtain ⟨k, hk, hown, hhanded⟩ := ih x hl
      refine ⟨⟨q, x⟩ :: k, .onward hk, hown, ?_⟩
      rw [List.map_cons, List.map_cons, Broker.handedRecords_cons, ← hhanded]
      exact Broker.handedRecords_cons q _

/-- What a request asked and was answered, and what came of it below. -/
structure View (k : Transcript protocol) (l : Transcript delivering) : Prop where
  /-- What it did not forward it asked itself. -/
  own_eq : own l = k.filter fun x => !x.question.isForward
  /-- What it forwarded was handed over or not. -/
  handed : ∃ parts, List.Forall₂ Sent (outgoing (calls k)) parts ∧
    handedOver (l.map (·.question)) = parts.flatten

variable {b : BrokerSettings} {k : Transcript protocol} {l l' : Transcript delivering}

theorem handedOver_append (l k : List Delivering) :
    handedOver (l ++ k) = handedOver l ++ handedOver k := by
  simp [handedOver]

theorem own_append (l k : Transcript delivering) : own (l ++ k) = own l ++ own k :=
  List.filterMap_append

theorem View.asked (h : View k l) {q : Question} (hq : q.isForward = false)
    (x : protocol.Answer q) : View (k ++ [⟨q, x⟩]) (l ++ [⟨.request q, x⟩]) := by
  obtain ⟨hown, parts, hparts, hhanded⟩ := h
  have hsent : outgoing (calls [⟨q, x⟩]) = [] := by
    cases q with
    | access a => rfl
    | outside o => cases o <;> first | rfl | cases hq
  refine ⟨?_, parts, ?_, ?_⟩
  · have hone : own [⟨.request q, x⟩] = [⟨q, x⟩] := rfl
    rw [own_append, List.filter_append, hone, hown]
    simp [hq]
  · rwa [calls_append, outgoing_append, hsent, List.append_nil]
  · rw [List.map_append, handedOver_append, hhanded]
    exact List.append_nil _

theorem View.forwarded (h : View k l) {origin : Origin} {events : List Event}
    {x : Except Fault UInt32}
    (hl : (sinkAnswer b (.outside (.forward origin events))).Reaches l' (.done x)) :
    View (k ++ [⟨.outside (.forward origin events), x⟩]) (l ++ l') := by
  obtain ⟨hown, parts, hparts, hhanded⟩ := h
  obtain ⟨m, hm, hown', hhanded'⟩ := exists_of_reaches hl
  have hpart : Sent (origin, events) (handedOver (l'.map (·.question))) := by
    rw [hhanded']
    exact (Broker.produce_ends b origin events).of_reaches hm
  refine ⟨?_, parts ++ [handedOver (l'.map (·.question))], ?_, ?_⟩
  · rw [own_append, List.filter_append, hown, hown']
    simp [Question.isForward]
  · rw [calls_append, outgoing_append]
    exact List.rel_append hparts (.cons hpart .nil)
  · rw [List.map_append, handedOver_append, hhanded]
    simp

theorem view_of_answered (h : Answered (sinkAnswer b) k l) : View k l := by
  induction h with
  | nil => exact ⟨rfl, [], .nil, rfl⟩
  | @snoc k l q x l' _ hl ih =>
    have hother (hq : q.isForward = false)
        (hanswer : sinkAnswer b q = .question (P := delivering) (.request q)) :
        View (k ++ [⟨q, x⟩]) (l ++ l') := by
      rw [hanswer] at hl
      cases hl with
      | onward hl =>
        cases hl
        exact ih.asked hq x
    cases q with
    | access a => exact hother rfl rfl
    | outside o =>
      cases o with
      | forward origin events => exact ih.forwarded hl
      | allocate who subject n => exact hother rfl rfl
      | release groupId owner subject n => exact hother rfl rfl
      | freshId => exact hother rfl rfl
      | wallClock => exact hother rfl rfl
      | clock => exact hother rfl rfl

end View

/-! ## What records say -/

theorem saysOrigin_ofEvent (o : Origin) (e : Event) (origin : Origin) (made : Timestamp) :
    saysOrigin o (Record.ofEvent e origin made) = decide (origin = o) := by
  cases o <;> cases origin <;> rfl

theorem filter_saysOrigin (o : Origin) {origin : Origin} {events : List Event} {l : List Record}
    (h : RecordsOf origin events l) : l.filter (saysOrigin o) = if origin = o then l else [] := by
  induction h with
  | nil => rw [List.filter_nil, ite_self]
  | cons hx _ ih =>
    obtain ⟨made, rfl⟩ := hx
    rw [List.filter_cons, saysOrigin_ofEvent, ih]
    by_cases ho : origin = o
    · simp [ho]
    · simp [ho]

section Prefix

variable {s : InternalSettings} {r : Request} {given : List Permit} {past : Transcript protocol}
  {l l' : List Record}

/-- The part of the metered records that is there so far. -/
theorem MeteredRecords.of_isPrefix (h : MeteredRecords r given l) (hl : l' <+: l) :
    MeteredRecords r given l' := by
  cases h with
  | nothing =>
    rw [List.prefix_nil.1 hl]
    exact .nothing
  | covered hholds hgiven hle hstamped =>
    have hle' := Nat.le_trans hl.length_le hle
    obtain ⟨m, rfl⟩ := hl
    have h := List.forall₂_take_append _ _ _ hstamped
    rw [List.take_take, Nat.min_eq_left (by simp)] at h
    exact .covered hholds hgiven hle' h

/-- The part of the internal records that is there so far. -/
theorem InternalRecords.of_isPrefix (h : InternalRecords s r given past l) (hl : l' <+: l) :
    InternalRecords s r given past l' := by
  by_cases hnil : l' = []
  · rw [hnil]
    exact .nothing
  · have hpos : 0 < l'.length := List.length_pos_iff.2 hnil
    have heq (hone : l.length ≤ 1) : l' = l := hl.eq_of_length_le (by omega)
    cases h with
    | nothing => exact absurd (List.prefix_nil.1 hl) hnil
    | notice hholds hgiven hexhausted howner hsource =>
      rw [heq (Nat.le_refl 1)]
      exact .notice hholds hgiven hexhausted howner hsource
    | event hholds htoken hstamped =>
      rw [heq (Nat.le_refl 1)]
      exact .event hholds htoken hstamped

end Prefix

/-! ## Whole requests -/

section Admitted

variable {who : Principal} {first : Event} {rest : List Event} {l : Transcript outside}
  {counts : List (Counter × UInt64)} {x : Except Fault UInt32} {permit : Permit}

/-- What is sent to tell the owner of a permit. -/
def noticeSent (who : Principal) (permit : Permit) (source id : String) : Origin × List Event :=
  (.internal, [Notice.make id source who.groupId permit.owner])

theorem Notified.outgoing (h : Notified who permit first.source l counts) :
    outgoing l = [] ∨
      NoticeDue permit first.source ∧
        ∃ id, outgoing l = [noticeSent who permit first.source id] := by
  cases h with
  | nobody _ => exact .inl rfl
  | sent hdue => exact .inr ⟨hdue, _, rfl⟩
  | unsent hdue => exact .inr ⟨hdue, _, rfl⟩

theorem Released.outgoing {units : UInt32} (h : Released who permit units l) : outgoing l = [] := by
  cases h with
  | nothing _ => rfl
  | once _ => rfl

/-- What is sent under a permit: a notice about it perhaps, and perhaps the events it covers. -/
structure SentUnder (who : Principal) (first : Event) (rest : List Event) (permit : Permit)
    (notices batches : List (Origin × List Event)) : Prop where
  notices_eq : notices = [] ∨
    NoticeDue permit first.source ∧ ∃ id, notices = [noticeSent who permit first.source id]
  batches_eq : batches = [] ∨
    batches = [(.metered, (first :: rest).take permit.granted.toNat)]

theorem Admitted.outgoing (h : Admitted who first rest l counts x) :
    outgoing l = [] ∨ ∃ permit notices batches, permits l = [permit] ∧
      outgoing l = notices ++ batches ∧ SentUnder who first rest permit notices batches := by
  cases h with
  | refused => exact .inl rfl
  | @exhausted p notice _ hn _ =>
    obtain ⟨hp, -⟩ := hn.entries
    refine .inr ⟨p, Gateway.outgoing notice, [], ?_, ?_, hn.outgoing, .inl rfl⟩
    · simp [permit?, hp]
    · simp [outgoing?]
  | @failed p notice _ f release hn _ hr =>
    refine .inr ⟨p, Gateway.outgoing notice, _, permits_forward hn hr, ?_, hn.outgoing, .inr rfl⟩
    simp [outgoing?, hr.outgoing]
  | @acknowledged p notice _ n k release hn _ _ hr =>
    refine .inr ⟨p, Gateway.outgoing notice, _, permits_forward hn hr, ?_, hn.outgoing, .inr rfl⟩
    simp [outgoing?, hr.outgoing]

theorem Admitted.handed (h : Admitted who first rest l counts x) {parts : List (List Record)}
    (hparts : List.Forall₂ Sent (Gateway.outgoing l) parts) :
    parts.flatten = [] ∨ ∃ permit notices batch, permits l = [permit] ∧
      parts.flatten = notices ++ batch ∧
      (notices = [] ∨ NoticeDue permit first.source ∧ ∃ id made, notices =
        [Record.ofEvent (Notice.make id first.source who.groupId permit.owner) .internal made]) ∧
      (batch = [] ∨ RecordsOf .metered ((first :: rest).take permit.granted.toNat) batch) := by
  obtain hl | ⟨permit, notices, batches, hp, hl, hn, hb⟩ := h.outgoing
  · rw [hl] at hparts
    cases hparts
    exact .inl rfl
  · rw [hl] at hparts
    obtain ⟨ps, qs, hps, hqs, rfl⟩ : ∃ ps qs, List.Forall₂ Sent notices ps ∧
        List.Forall₂ Sent batches qs ∧ parts = ps ++ qs := by
      refine ⟨parts.take notices.length, parts.drop notices.length, ?_, ?_,
        (List.take_append_drop _ _).symm⟩
      · simpa using List.forall₂_take notices.length hparts
      · simpa using List.forall₂_drop notices.length hparts
    refine .inr ⟨permit, ps.flatten, qs.flatten, hp, List.flatten_append, ?_, ?_⟩
    · obtain rfl | ⟨hdue, id, rfl⟩ := hn
      · cases hps
        exact .inl rfl
      · cases hps with
        | @cons _ part _ _ hpart hnil =>
          cases hnil
          obtain rfl | hpart := hpart
          · exact .inl rfl
          · cases hpart with
            | cons hone hnil =>
              cases hnil
              obtain ⟨made, rfl⟩ := hone
              exact .inr ⟨hdue, id, made, rfl⟩
    · obtain rfl | rfl := hb
      · cases hqs
        exact .inl rfl
      · cases hqs with
        | @cons _ part _ _ hpart hnil =>
          cases hnil
          simpa [Sent] using hpart

end Admitted

section Whole

variable {s : InternalSettings} {r : Request} {k : Transcript protocol} {l : List Record}

/-- What a whole request gave to the broker. -/
structure Records (s : InternalSettings) (r : Request) (k : Transcript protocol)
    (l : List Record) : Prop where
  said : ∀ x ∈ l, saysOrigin .metered x = true ∨ saysOrigin .internal x = true
  metered : MeteredRecords r (permits (calls k)) (l.filter (saysOrigin .metered))
  internal : InternalRecords s r (permits (calls k)) k (l.filter (saysOrigin .internal))

theorem records_nil : Records s r k [] where
  said _ h := by cases h
  metered := .nothing
  internal := .nothing

/-- The records of some events of a batch are those of its first events. -/
theorem stamped_of_records {who : Principal} {now : Timestamp} {events before : List Event}
    {n m : Nat} (htake : events.take n = before)
    (h : RecordsOf .metered ((before.map (stamp who now)).take m) l) :
    l.length ≤ m ∧ List.Forall₂
      (fun e x => ∃ e' made, Stamped who now e e' ∧ x = Record.ofEvent e' .metered made)
      (events.take l.length) l := by
  subst htake
  have hlen := h.length_eq
  rw [List.length_take, List.length_map, List.length_take] at hlen
  refine ⟨by omega, ?_⟩
  have hevents : events.take l.length = (events.take n).take m := by
    rw [List.take_take, List.take_eq_take_iff]
    omega
  rw [hevents]
  rw [← List.map_take] at h
  exact (List.forall₂_map_left_iff.1 h).imp fun e x hx => by
    obtain ⟨made, rfl⟩ := hx
    exact ⟨_, made, stamped_stamp who now e, rfl⟩

theorem Handled.records (h : Handled s r k) {parts : List (List Record)}
    (hparts : List.Forall₂ Sent (outgoing (calls k)) parts) : Records s r k parts.flatten := by
  cases h with
  | quiet hk =>
    rw [hk] at hparts
    cases hparts
    exact records_nil
  | @internal who e time now x hholds htoken hk =>
    rw [hk] at hparts
    cases hparts with
    | cons hpart hnil =>
      cases hnil
      obtain rfl | hpart := hpart
      · exact records_nil
      · cases hpart with
        | cons hone hnil =>
          cases hnil
          obtain ⟨made, rfl⟩ := hone
          refine ⟨?_, ?_, ?_⟩
          · simp [saysOrigin_ofEvent]
          · simpa [saysOrigin_ofEvent] using MeteredRecords.nothing
          · simpa [saysOrigin_ofEvent] using
              InternalRecords.event hholds htoken (stamped_stamp who now (mark s e))
  | @admitted who first rest n before now counts x hholds htake ha =>
    obtain hnil | ⟨permit, notices, batch, hp, hl, hn, hb⟩ := ha.handed hparts
    · rw [hnil]
      exact records_nil
    · -- The notice is the internal part of the records, and the batch is the metered part.
      have hnotices (o : Origin) :
          notices.filter (saysOrigin o) = if .internal = o then notices else [] := by
        obtain rfl | ⟨-, id, made, rfl⟩ := hn
        · simp
        · exact filter_saysOrigin o (.cons ⟨made, rfl⟩ .nil)
      have hbatch (o : Origin) :
          batch.filter (saysOrigin o) = if .metered = o then batch else [] := by
        obtain rfl | hb := hb
        · simp
        · exact filter_saysOrigin o hb
      rw [hl]
      refine ⟨fun x hx => ?_, ?_, ?_⟩
      · rcases List.mem_append.1 hx with hx | hx
        · exact .inr (List.filter_eq_self.1 (hnotices .internal) x hx)
        · exact .inl (List.filter_eq_self.1 (hbatch .metered) x hx)
      · rw [List.filter_append, hnotices, hbatch, hp]
        obtain rfl | hb := hb
        · exact .nothing
        · obtain ⟨hle, hstamped⟩ := stamped_of_records htake hb
          exact .covered hholds rfl hle hstamped
      · rw [List.filter_append, hnotices, hbatch, hp]
        obtain rfl | ⟨hdue, id, made, rfl⟩ := hn
        · exact .nothing
        · obtain ⟨hexhausted, howner, hsource⟩ := noticeDue_iff.1 hdue
          have hnotice : InternalRecords s r [permit] k [Record.ofEvent
              (Notice.make id first.source who.groupId permit.owner) .internal made] :=
            .notice hholds rfl hexhausted howner hsource
          exact hnotice

end Whole

/-! ## Requests under way -/

section Course

variable {s : Settings} {c : Delivery}

/-- Answers that give neither permits nor tokens. -/
def declining : (q : Delivering) → delivering.Answer q
  | .request (.access (.token _)) => .refused none
  | .request q => refusing q
  | .broker (.connect _ _) => .error ""
  | .broker (.topics _) => .error ""
  | .broker (.lookUp _) => .error ""
  | .broker (.produce _ _ _) => .late
  | .broker .wallClock => default
  | .broker .clock => 0
  | .broker (.count _ _) => ()
  | .broker (.observe _) => ()
  | .broker .client => none
  | .broker (.keep _) => ()

theorem of_declining {l : Transcript delivering}
    (h : ∀ x ∈ l, x.answer = declining x.question) :
    permits (calls (own l)) = [] ∧ ∀ time, ⟨.access (.token time), .admitted⟩ ∉ own l := by
  induction l with
  | nil => exact ⟨rfl, fun _ => List.not_mem_nil⟩
  | cons x l ih =>
    obtain ⟨hx, hl⟩ := List.forall_mem_cons.1 h
    obtain ⟨hp, ht⟩ := ih hl
    obtain ⟨q | q, x⟩ := x
    · have hown : own (⟨.request q, x⟩ :: l) = ⟨q, x⟩ :: own l := rfl
      rw [hown]
      refine ⟨?_, fun time hmem => ?_⟩
      · cases q with
        | access a => exact hp
        | outside o => cases o <;> simp_all [Outside.isCall, permit?, declining, refusing]
      · rcases List.mem_cons.1 hmem with heq | hmem
        · cases heq
          cases hx
        · exact ht time hmem
    · exact ⟨hp, ht⟩

/-- A question to the quota authority is a call that the request makes itself. -/
theorem call_of_isQuota {l : Transcript delivering} {q : Delivering}
    (hq : q ∈ l.map (·.question)) (h : q.IsQuota) : calls (own l) ≠ [] := by
  obtain ⟨⟨q, x⟩, hx, rfl⟩ := List.mem_map.1 hq
  intro hnil
  have hcall (o : Outside) (hcall : o.isCall = true) (x : outside.Answer o)
      (hx : ⟨.request (.outside o), x⟩ ∈ l) : False := by
    have hown : ⟨.outside o, x⟩ ∈ own l := List.mem_filterMap.2 ⟨_, hx, rfl⟩
    have hmem : ⟨o, x⟩ ∈ calls (own l) := by
      refine List.mem_filterMap.2 ⟨_, hown, ?_⟩
      simp [call?, hcall]
    rw [hnil] at hmem
    cases hmem
  cases q with
  | broker q => exact h
  | request q =>
    cases q with
    | access a => exact h
    | outside o =>
      cases o with
      | allocate who subject n => exact hcall (.allocate who subject n) rfl x hx
      | release groupId owner subject n =>
        exact hcall (.release groupId owner subject n) rfl x hx
      | forward origin events => exact h
      | freshId => exact h
      | wallClock => exact h
      | clock => exact h

/-- The calls that a request makes itself are those that send nothing. -/
theorem View.calls_eq {k : Transcript protocol} {l : Transcript delivering} (h : View k l) :
    calls (own l) = (calls k).filter fun x => (outgoing? x).isNone := by
  rw [h.own_eq]
  clear h
  induction k with
  | nil => rfl
  | cons x k ih =>
    obtain ⟨q | a, x⟩ := x
    · cases q <;> first | exact congrArg (List.cons _) ih | exact ih
    · exact ih

theorem permits_filter (l : Transcript outside) :
    permits (l.filter fun x => (outgoing? x).isNone) = permits l := by
  induction l with
  | nil => rfl
  | cons x l ih =>
    obtain ⟨q, x⟩ := x
    cases q with
    | allocate who subject n =>
      cases x with
      | error f => exact ih
      | ok permit => exact congrArg (List.cons permit) ih
    | _ => exact ih

theorem InternalRecords.of_token {s : InternalSettings} {r : Request} {given : List Permit}
    {past past' : Transcript protocol} {l : List Record} (h : InternalRecords s r given past l)
    (htoken : ∀ time, ⟨.access (.token time), .admitted⟩ ∈ past →
      ⟨.access (.token time), .admitted⟩ ∈ past') : InternalRecords s r given past' l := by
  cases h with
  | nothing => exact .nothing
  | notice hholds hgiven hexhausted howner hsource =>
    exact .notice hholds hgiven hexhausted howner hsource
  | event hholds ht hstamped => exact .event hholds (htoken _ ht) hstamped

theorem MeteredRecords.eq_nil {r : Request} {given : List Permit} {l : List Record}
    (h : MeteredRecords r given l) (hpath : Route.ofPath? r.path = some .internal) : l = [] := by
  cases h with
  | nothing => rfl
  | covered hholds _ _ _ => exact absurd hpath hholds.not_internal

/-- By the internal path nothing is asked of the quota authority. -/
theorem Handled.unmetered {s : InternalSettings} {r : Request} {k : Transcript protocol}
    (h : Handled s r k) (hpath : Route.ofPath? r.path = some .internal) :
    (calls k).filter (fun x => (outgoing? x).isNone) = [] := by
  cases h with
  | quiet hk =>
    rw [hk]
    rfl
  | admitted hholds _ _ => exact absurd hpath hholds.not_internal
  | internal _ _ hk =>
    rw [hk]
    rfl

/-- Every request has given to the broker what it may. -/
theorem delivered_of_reaches (h : (deliver s c.origin).Reaches c.past c.rest) :
    Delivered s.internal c := by
  -- From here on there are no permits and no tokens: what there are was given before.
  obtain ⟨m, x, hm, hdeclined⟩ := exists_end declining c.rest
  obtain ⟨hpermits, htokens⟩ := of_declining hdeclined
  obtain ⟨k, hk, hhandled⟩ :=
    ((handle_ends s.internal c.origin).run (sinkAnswer s.broker)).of_reaches (h.trans hm)
  have hview := view_of_answered hk
  obtain ⟨parts, hparts, hhanded⟩ := hview.handed
  obtain ⟨hsaid, hmetered, hinternal⟩ := hhandled.records hparts
  have hgiven : permitsOf c = permits (calls k) := by
    rw [← permits_filter, ← hview.calls_eq, own_append, calls_append, permits_append, hpermits,
      List.append_nil]
    rfl
  have hpart : handedOver c.asked <+: parts.flatten := by
    rw [← hhanded]
    exact Broker.handedRecords_mono ((Course.asked_part hm).filterMap _)
  rw [← hgiven] at hmetered hinternal
  refine ⟨fun x hx => hsaid x (hpart.subset hx), hmetered.of_isPrefix (hpart.filter _), ?_, ?_⟩
  · refine (hinternal.of_isPrefix (hpart.filter _)).of_token fun time htoken => ?_
    have hmem : ⟨.access (.token time), .admitted⟩ ∈ own c.past ++ own m := by
      rw [← own_append, hview.own_eq]
      exact List.mem_filter.2 ⟨htoken, rfl⟩
    exact (List.mem_append.1 hmem).resolve_right (htokens time)
  · intro hpath
    refine ⟨(hmetered.of_isPrefix (hpart.filter _)).eq_nil hpath, fun q hq hquota => ?_⟩
    refine call_of_isQuota ((Course.asked_part hm).subset hq) hquota ?_
    rw [hview.calls_eq]
    exact hhandled.unmetered hpath

end Course

/-! ## Side by side -/

theorem MeteredRecords.length_le {r : Request} {given : List Permit} {l : List Record}
    (h : MeteredRecords r given l) : l.length ≤ (given.map (·.granted.toNat)).sum := by
  cases h with
  | nothing => exact Nat.zero_le _
  | covered _ hgiven hle _ =>
    rw [hgiven]
    simpa using hle

/-- Requests whose sink is the producer, answered in any way. -/
def deliveries (s : Settings) : Rules delivering Request Response Unit where
  dialogue := deliver s
  mayBegin _ _ := True
  answers _ _ _ _ := True

/-- Nothing reaches the broker but what a permit covers, what tells about one, or what a token lets
through: so it is for every request, whatever goes on beside it and however it is answered, and all
metered records together are within what was granted. -/
theorem nothing_bypasses (s : Settings) {p : Pool delivering Request Response Unit}
    (h : Pool.Reachable (deliveries s) ⟨(), []⟩ p) :
    (∀ r, (serve s r : Task Response) = (deliver s r).run (deliveryAnswer s)) ∧
    (∀ c ∈ p.courses, Delivered s.internal c) ∧
    (p.courses.map fun c => (recordsFrom .metered c.asked).length).sum ≤
      (p.courses.map fun c => ((permitsOf c).map (·.granted.toNat)).sum).sum := by
  have hsound : p.Sound (deliveries s) := Pool.Reachable.sound h fun c hc => by cases hc
  have hdelivered (c : Delivery) (hc : c ∈ p.courses) : Delivered s.internal c :=
    delivered_of_reaches (hsound c hc)
  refine ⟨serve_eq_deliver s, hdelivered, List.sum_le_sum fun c hc => ?_⟩
  exact (hdelivered c hc).metered.length_le

/-- Answers that give a permit, which uses the allowance up, and tokens, and write every record. -/
def exhausting : (q : Delivering) → delivering.Answer q
  | .request (.outside (.allocate _ _ _)) => .ok ⟨5, "owner", true⟩
  | .request (.access (.token _)) => .admitted
  | .broker .client => some ⟨⟨0⟩, "topic", 0⟩
  | .broker (.produce _ batch _) => .written batch.records.length
  | q => declining q

/-- A request that was given these answers to its end. -/
def playedOut (r : Request) : Delivery :=
  ⟨r, ((deliver .default r).play (fun _ => exhausting) []).1,
    .done ((deliver .default r).play (fun _ => exhausting) []).2, false⟩

/-- An event posted under a permit, and the same event posted by the internal path. -/
def twoDeliveries : Pool delivering Request Response Unit :=
  ⟨(), [playedOut onePosted, playedOut oneInternal]⟩

theorem twoDeliveries_reachable : Pool.Reachable (deliveries .default) ⟨(), []⟩ twoDeliveries := by
  have hsound : twoDeliveries.Sound (deliveries .default) := by
    have hone (r : Request) :
        (deliver .default r).Reaches (playedOut r).past (playedOut r).rest :=
      reaches_play _ _
    intro c hc
    rcases List.mem_cons.1 hc with rfl | hc
    · exact hone onePosted
    · cases List.mem_singleton.1 hc
      exact hone oneInternal
  exact hsound.reachable (fun _ _ => trivial) fun _ _ _ => trivial

theorem past_playedOut {α : Type} {r : Request} {d : Action α} {f : α → Response}
    (h : handle .default r = f <$> d) : (playedOut r).past =
      ((d.run (sinkAnswer .default)).play (fun _ => exhausting) []).1 := by
  have hdeliver : deliver .default r = f <$> d.run (sinkAnswer .default) := by
    rw [← run_map, ← h]
    rfl
  unfold playedOut
  rw [hdeliver, play_map]

/-- The numbers of metered and of internal records of a request. -/
def recordCounts (c : Delivery) : Nat × Nat :=
  ((recordsFrom .metered c.asked).length, (recordsFrom .internal c.asked).length)

theorem recordCounts_onePosted : recordCounts (playedOut onePosted) = (1, 1) := by
  have hanswer := handle_of_holds .default onePosted_holds
  unfold recordCounts Course.asked
  rw [past_playedOut hanswer]
  rfl

theorem recordCounts_oneInternal : recordCounts (playedOut oneInternal) = (0, 1) := by
  have hanswer := handle_of_holdsInternal (s := .default) oneInternal_holds (by decide)
  unfold recordCounts Course.asked
  rw [past_playedOut hanswer]
  simp only [publishInternalBody, oneInternal_holds.event_eq]
  rfl

/-- The event under the permit reaches the broker with a notice, and the other event alone. -/
theorem nothing_bypasses_twoDeliveries :
    Pool.Reachable (deliveries .default) ⟨(), []⟩ twoDeliveries ∧
      twoDeliveries.courses.map recordCounts = [(1, 1), (0, 1)] ∧
      ∀ c ∈ twoDeliveries.courses, Delivered Settings.default.internal c := by
  have hcounts : twoDeliveries.courses.map recordCounts = [(1, 1), (0, 1)] := by
    show [recordCounts (playedOut onePosted), recordCounts (playedOut oneInternal)] = _
    rw [recordCounts_onePosted, recordCounts_oneInternal]
  exact ⟨twoDeliveries_reachable, hcounts,
    (nothing_bypasses .default twoDeliveries_reachable).2.1⟩

end Sluice.Gateway
