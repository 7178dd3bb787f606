import Sluice.PrefixMatcher
import Sluice.Event.Wire

/-!
# Deny-lists

A rule forbids every key that starts with its text.  A key is a dimension, a colon and a value,
such as `source:` and the source of an event.  A deny-list is a prefix matcher from the texts of
its rules to the notes on them, which are kept for people and take no part in matching.

As JSON a rule is one object with the text and the note side by side.  Reading a rule holds on to
the members it does not know until the end, so their depth is limited.
-/

namespace Sluice

open Json (Reader Value Cause Field Record Members)

/-- The note on a rule. -/
structure DenyNote where
  /-- When the rule was made. -/
  created : Timestamp
  reason : String
deriving DecidableEq

structure DenyRule where
  /-- What a forbidden key starts with. -/
  text : String
  /-- The note on the rule. -/
  note : DenyNote
deriving DecidableEq

/-- The rules in force. -/
abbrev DenyList := PrefixMatcher DenyNote

/-- The deny-list of some rules; of two rules with one text the later stays. -/
def DenyList.ofRules (rules : List DenyRule) : DenyList :=
  PrefixMatcher.ofList (rules.map fun r => (r.text, r.note))

/-! ## As JSON -/

/-- The members of a note. -/
def DenyNote.members (n : DenyNote) : List (String × Value) :=
  [("created", .string n.created.text), ("reason", .string n.reason)]

def DenyNote.toJson (n : DenyNote) : Value := .object n.members

def DenyRule.toJson (r : DenyRule) : Value :=
  .object (("prefix", .string r.text) :: r.note.members)

/-- The fields of a note. -/
def DenyNote.record : Record DenyNote where
  title := "struct DenyValue"
  blank := ⟨.epoch, ""⟩
  fields :=
    [.needed "created" Timestamp.reader fun v n => { n with created := v },
      .defaulted "reason" Reader.string fun v n => { n with reason := v }]

/-- A string that is held as a value. -/
def heldString (expected : String) : Value → Except Cause String
  | .string s => .ok s
  | v => .error (.typeMismatch v.shape expected)

/-- A timestamp that is held as a value. -/
def heldTimestamp (v : Value) : Except Cause Timestamp := do
  let s ← heldString "an RFC 3339 formatted date and time string" v
  (Timestamp.read s).mapError fun e => .refused e.message

/-- The note in the members held, read in their order. -/
def heldNote (created : Option Timestamp) (reason : Option String) :
    List (String × Value) → Except Cause DenyNote
  | [] =>
    match created with
    | some c => .ok ⟨c, reason.getD ""⟩
    | none => .error (.missing "created")
  | (key, v) :: r =>
    if key = "created" then
      if created.isSome then .error (.twice "created")
      else
        match heldTimestamp v with
        | .ok c => heldNote (some c) reason r
        | .error e => .error e
    else if key = "reason" then
      if reason.isSome then .error (.twice "reason")
      else
        match heldString "a string" v with
        | .ok x => heldNote created (some x) r
        | .error e => .error e
    else heldNote created reason r

/-- A rule partly read: its text, and the other members, last first. -/
structure HeldRule where
  /-- The text, once read. -/
  text : Option String
  /-- The other members. -/
  others : List (String × Value)

/-- The members of a rule. -/
def HeldRule.members (levels : Nat) : Members HeldRule where
  member h key :=
    if key = "prefix" then
      if h.text.isSome then .error (.twice "prefix")
      else .ok (Reader.string.map fun s => { h with text := some s })
    else .ok ((Reader.value levels).map fun v => { h with others := (key, v) :: h.others })

/-- The rule of the members read. -/
def HeldRule.finish (h : HeldRule) : Except Cause DenyRule :=
  match h.text with
  | none => .error (.missing "prefix")
  | some text => (heldNote none none h.others.reverse).map fun note => ⟨text, note⟩

/-- A reader of rules whose other members have at most so many lists and objects in each other. -/
def DenyRule.reader (levels : Nat) : Reader DenyRule :=
  .members "struct DenyEntry" (HeldRule.members levels) ⟨none, []⟩ HeldRule.finish

/-- The most lists and objects in each other in a text of which values are held. -/
def depthLimit : Nat := 127

/-- A reader of a text that is one rule. -/
def DenyRule.topReader : Reader DenyRule := DenyRule.reader (depthLimit - 1)

/-- A page of rules, as a store serves it. -/
structure DenyPage where
  rules : List DenyRule
deriving DecidableEq

/-- The fields of a page, whose rules lie two levels down. -/
def DenyPage.record : Record DenyPage where
  title := "struct DenyListPage"
  blank := ⟨[]⟩
  fields :=
    [.defaulted "entries" (DenyRule.reader (depthLimit - 3)).list fun v p => { p with rules := v }]

end Sluice
