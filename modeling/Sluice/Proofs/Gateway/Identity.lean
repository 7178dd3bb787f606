import Mathlib.Data.List.TakeWhile
import Sluice.Proofs.Gateway.Requests
import Sluice.Proofs.Text.Ascii

/-!
# Who a request is from

A publisher is named by the values of two headers.  `IsLegible` says which values can be read as
text, and `trimmed` what of a value counts; both speak of its bytes.  `identity_kept` follows the
name from there to its uses: permits are asked for it, units go back to its group, and what is
forwarded bears it (`Question.Names`).

The two headers are not treated alike.  A group that cannot be read is refused, as one that is not
given.  A user that cannot be read is taken for none, and the batch is charged to the group as a
whole, so that different users come to the same (`accented_users_merged`).
-/

namespace Sluice.Gateway

open Dialogue

/-! ## Values of headers -/

/-- The values of a header, whose name may be in any letter case. -/
def Request.values (r : Request) (name : String) : List (List UInt8) :=
  (r.headers.filter fun h => h.1.map Char.toLower == name).map (·.2)

/-- The value can be read: it is printed ASCII, blanks and tabs. -/
def IsLegible (v : List UInt8) : Prop := ∀ b ∈ v, 0x20 ≤ b ∧ b < 0x7F ∨ b = 0x09

instance (v : List UInt8) : Decidable (IsLegible v) :=
  List.decidableBAll (fun b => 0x20 ≤ b ∧ b < 0x7F ∨ b = 0x09) v

/-- The byte is a blank or a tab. -/
def isGap (b : UInt8) : Bool := b == 0x20 || b == 0x09

/-- The value without the blanks and tabs at its ends. -/
def trimmed (v : List UInt8) : List UInt8 :=
  ((v.dropWhile isGap).reverse.dropWhile isGap).reverse

theorem header?_eq (r : Request) (name : String) :
    r.header? name = (r.values name).head?.bind headerText? := by
  unfold Request.header? Request.values
  rw [← List.head?_filter, List.head?_map]
  cases (r.headers.filter fun h => h.1.map Char.toLower == name).head? with
  | none => rfl
  | some h => rfl

/-- The character of a byte. -/
def charOf (b : UInt8) : Char := Char.ofNat b.toNat

theorem legible_iff {b : UInt8} :
    ((0x20 ≤ b && b < 0x7F) || b == 0x09) = true ↔ 0x20 ≤ b ∧ b < 0x7F ∨ b = 0x09 := by
  simp

theorem headerText?_of_legible {v : List UInt8} (h : IsLegible v) :
    headerText? v = some (String.ofList (v.map charOf)) := by
  unfold headerText?
  rw [if_pos (List.all_eq_true.2 fun b hb => legible_iff.2 (h b hb))]
  rfl

theorem headerText?_of_illegible {v : List UInt8} (h : ¬IsLegible v) : headerText? v = none := by
  unfold headerText?
  rw [if_neg fun hall => h fun b hb => legible_iff.1 (List.all_eq_true.1 hall b hb)]

/-! ## Bytes of values -/

theorem toNat_of_legible {b : UInt8} (h : 0x20 ≤ b ∧ b < 0x7F ∨ b = 0x09) :
    0x20 ≤ b.toNat ∧ b.toNat < 0x7F ∨ b.toNat = 0x09 := by
  rwa [UInt8.le_iff_toNat_le, UInt8.lt_iff_toNat_lt, ← UInt8.toNat_inj] at h

theorem toNat_charOf {b : UInt8} (h : 0x20 ≤ b ∧ b < 0x7F ∨ b = 0x09) :
    (charOf b).toNat = b.toNat := by
  have hb := toNat_of_legible h
  exact Text.toNat_ofNat_of_lt (by omega)

theorem isBlank_charOf {b : UInt8} (h : 0x20 ≤ b ∧ b < 0x7F ∨ b = 0x09) :
    Text.isBlank (charOf b) = isGap b := by
  have hb := toNat_of_legible h
  have h20 : (0x20 : UInt8).toNat = 0x20 := rfl
  have h09 : (0x09 : UInt8).toNat = 0x09 := rfl
  rw [Bool.eq_iff_iff]
  simp only [Text.isBlank, isGap, toNat_charOf h, Bool.or_eq_true, Bool.and_eq_true,
    decide_eq_true_eq, beq_iff_eq, ← UInt8.toNat_inj]
  omega

theorem bytes_map_charOf {v : List UInt8} (h : IsLegible v) :
    Text.bytes (String.ofList (v.map charOf)) = v := by
  refine Text.bytes_ofList_map fun b hb => UInt8.lt_iff_toNat_lt.2 ?_
  have hb := toNat_of_legible (h b hb)
  have h80 : (0x80 : UInt8).toNat = 0x80 := rfl
  omega

/-! ## White space -/

theorem dropWhile_map_charOf {v : List UInt8} (h : IsLegible v) :
    (v.map charOf).dropWhile Text.isBlank = (v.dropWhile isGap).map charOf := by
  induction v with
  | nil => rfl
  | cons b v ih =>
    rw [List.map_cons, List.dropWhile_cons, List.dropWhile_cons, isBlank_charOf (h b (.head v))]
    split
    · exact ih fun c hc => h c (.tail b hc)
    · rfl

theorem IsLegible.dropWhile_reverse {v : List UInt8} (h : IsLegible v) :
    IsLegible (v.dropWhile isGap).reverse :=
  fun b hb => h b ((List.dropWhile_sublist _).subset (List.mem_reverse.1 hb))

theorem bytes_trim {v : List UInt8} (h : IsLegible v) :
    Text.bytes (Text.trim (String.ofList (v.map charOf))) = trimmed v := by
  have htrim : Text.trimBlank (v.map charOf) = (trimmed v).map charOf := by
    unfold Text.trimBlank trimmed
    rw [dropWhile_map_charOf h, ← List.map_reverse, dropWhile_map_charOf h.dropWhile_reverse,
      List.map_reverse]
  have hlegible : IsLegible (trimmed v) := h.dropWhile_reverse.dropWhile_reverse
  rw [Text.trim, String.toList_ofList, htrim, bytes_map_charOf hlegible]

/-- What is left out of a value is blank. -/
theorem isGap_of_trimmed_eq_nil {v : List UInt8} (h : trimmed v = []) {b : UInt8} (hb : b ∈ v) :
    isGap b = true := by
  have hrest : ∀ c ∈ v.dropWhile isGap, isGap c = true := by
    have h := List.dropWhile_eq_nil_iff.1 (List.reverse_eq_nil_iff.1 h)
    exact fun c hc => h c (List.mem_reverse.2 hc)
  rw [← List.takeWhile_append_dropWhile (p := isGap) (l := v)] at hb
  obtain hb | hb := List.mem_append.1 hb
  · exact List.mem_takeWhile_imp hb
  · exact hrest b hb

theorem trimmed_ne_nil {v : List UInt8} (h : ¬IsLegible v) : trimmed v ≠ [] := by
  intro hnil
  refine h fun b hb => ?_
  have hgap := isGap_of_trimmed_eq_nil hnil hb
  simp only [isGap, Bool.or_eq_true, beq_iff_eq] at hgap
  obtain rfl | rfl := hgap
  · exact .inl (by decide)
  · exact .inr rfl

/-! ## Principals -/

/-- The text that a header gives, if it is there and can be read, without white space. -/
def named (v : Option (List UInt8)) : String := Text.trim ((v.bind headerText?).getD "")

theorem named_of_illegible {v : List UInt8} (h : ¬IsLegible v) : named (some v) = "" := by
  unfold named
  rw [Option.bind_some, headerText?_of_illegible h]
  rfl

/-- It is the value exactly if that can be read. -/
theorem bytes_named_iff {v : Option (List UInt8)} :
    Text.bytes (named v) = trimmed (v.getD []) ↔ ∀ w ∈ v, IsLegible w := by
  cases v with
  | none =>
    refine iff_of_true rfl fun w hw => ?_
    cases hw
  | some v =>
    by_cases hv : IsLegible v
    · refine iff_of_true ?_ fun w hw => Option.some.inj hw ▸ hv
      unfold named
      rw [Option.bind_some, headerText?_of_legible hv]
      exact bytes_trim hv
    · refine iff_of_false ?_ fun h => hv (h v rfl)
      rw [named_of_illegible hv]
      exact (trimmed_ne_nil hv).symm

theorem Principal.ofHeaders_eq_ok {group user : Option String} {who : Principal}
    (h : Principal.ofHeaders group user = .ok who) :
    who = ⟨Text.trim (group.getD ""), Text.trim (user.getD "")⟩ ∧ who.groupId ≠ "" := by
  unfold Principal.ofHeaders at h
  dsimp only at h
  split at h
  · cases h
  · rename_i hgroup
    split at h
    · cases h
    · cases h
      exact ⟨rfl, by simpa using hgroup⟩

/-- A request with one group header, and with one user header or none. -/
structure Bears (r : Request) (group : List UInt8) (user : Option (List UInt8)) : Prop where
  group_eq : r.values "x-group-id" = [group]
  user_eq : r.values "x-user-id" = user.toList

section Bears

variable {r : Request} {group : List UInt8} {user : Option (List UInt8)} {who : Principal}

theorem Bears.principal_eq (h : Bears r group user) :
    r.principal = Principal.ofHeaders (headerText? group) (user.bind headerText?) := by
  rw [Request.principal, header?_eq, header?_eq, h.group_eq, h.user_eq, Option.head?_toList]
  rfl

theorem Bears.unnamed (h : Bears r group user) (hgroup : ¬IsLegible group) :
    ∃ reason, r.principal = .error (.auth reason) := by
  rw [h.principal_eq, headerText?_of_illegible hgroup]
  exact ⟨_, rfl⟩

theorem Bears.named (h : Bears r group user) (hwho : r.principal = .ok who) :
    who = ⟨Gateway.named (some group), Gateway.named user⟩ ∧ who.groupId ≠ "" := by
  rw [h.principal_eq] at hwho
  exact Principal.ofHeaders_eq_ok hwho

end Bears

/-! ## What bears the name -/

/-- The event bears the stamp of a publisher. -/
def IsFrom (who : Principal) (e : Event) : Prop :=
  e.attribute? "groupid" = some (.string who.groupId) ∧
    e.attribute? "userid" = some (.string who.userId)

/-- What goes out for a request is in the name of the publisher.  A notice about a permit is not an
event that the request posts, and bears no stamp. -/
def Outside.Names (r : Request) (who : Principal) : Outside → Prop
  | .allocate asked _ _ => asked = who
  | .release groupId _ _ _ => groupId = who.groupId
  | .forward origin events => ∀ e ∈ events, IsFrom who e ∨
      Route.ofPath? r.path ≠ some .internal ∧ origin = .internal ∧
        ∃ id source owner, e = Notice.make id source who.groupId owner
  | .freshId | .wallClock | .clock => True

/-- The question, if it goes out, is in the name of the publisher. -/
def Question.Names (r : Request) (who : Principal) : Question → Prop
  | .outside q => q.Names r who
  | .access _ => True

theorem isFrom_stamp (who : Principal) (now : Timestamp) (e : Event) :
    IsFrom who (stamp who now e) :=
  have h := stamped_stamp who now e
  ⟨h.groupId_eq, h.userId_eq⟩

section Names

variable {s : InternalSettings} {r : Request} {who : Principal} {permit : Permit} {units : UInt32}
  {first : Event} {rest : List Event} {source : String} {l : Transcript outside}
  {k : Transcript protocol} {counts : List (Counter × UInt64)} {x : Except Fault UInt32}

theorem Notified.names (hpath : Route.ofPath? r.path ≠ some .internal)
    (h : Notified who permit source l counts) : ∀ x ∈ l, x.question.Names r who := by
  have hnotice (id : String) : Outside.Names r who
      (.forward .internal [Notice.make id source who.groupId permit.owner]) := by
    intro e he
    exact .inr ⟨hpath, rfl, id, source, permit.owner, List.mem_singleton.1 he⟩
  cases h with
  | nobody _ => exact List.forall_mem_nil _
  | sent _ => exact List.forall_mem_singleton.2 (hnotice _)
  | unsent _ => exact List.forall_mem_singleton.2 (hnotice _)

theorem Released.names (h : Released who permit units l) : ∀ x ∈ l, x.question.Names r who := by
  cases h with
  | nothing _ => exact List.forall_mem_nil _
  | once _ => exact List.forall_mem_singleton.2 rfl

theorem Admitted.names (hpath : Route.ofPath? r.path ≠ some .internal)
    (hfrom : ∀ e ∈ first :: rest, IsFrom who e) (h : Admitted who first rest l counts x) :
    ∀ x ∈ l, x.question.Names r who := by
  have hbatch (p : Permit) : Outside.Names r who
      (.forward .metered ((first :: rest).take p.granted.toNat)) :=
    fun e he => .inl (hfrom e (List.mem_of_mem_take he))
  cases h with
  | refused => exact List.forall_mem_singleton.2 rfl
  | exhausted hn _ => exact List.forall_mem_cons.2 ⟨rfl, hn.names hpath⟩
  | failed hn _ hr =>
    exact List.forall_mem_cons.2 ⟨rfl, List.forall_mem_append.2
      ⟨hn.names hpath, List.forall_mem_cons.2 ⟨hbatch _, hr.names⟩⟩⟩
  | acknowledged hn _ _ hr =>
    exact List.forall_mem_cons.2 ⟨rfl, List.forall_mem_append.2
      ⟨hn.names hpath, List.forall_mem_cons.2 ⟨hbatch _, hr.names⟩⟩⟩

theorem Handled.names (h : Handled s r k) (hwho : r.principal = .ok who) :
    ∀ x ∈ calls k, x.question.Names r who := by
  cases h with
  | quiet hk =>
    rw [hk]
    exact List.forall_mem_nil _
  | @admitted who' first rest n before now counts x hholds htake ha =>
    obtain rfl : who' = who := Except.ok.inj (hholds.principal_eq.symm.trans hwho)
    refine ha.names hholds.not_internal fun e he => ?_
    rw [← List.map_cons] at he
    obtain ⟨e, -, rfl⟩ := List.mem_map.1 he
    exact isFrom_stamp who' now e
  | @internal who' e time now x hholds _ hk =>
    obtain rfl : who' = who := Except.ok.inj (hholds.principal_eq.symm.trans hwho)
    rw [hk]
    refine List.forall_mem_singleton.2 fun e' he' => .inl ?_
    rw [List.mem_singleton.1 he']
    exact isFrom_stamp who' now _

theorem Handled.nothing (h : Handled s r k) {f : Fault} (hr : r.principal = .error f) :
    calls k = [] := by
  have habsurd {who : Principal} (hwho : r.principal = .ok who) : False := by
    rw [hr] at hwho
    cases hwho
  cases h with
  | quiet hk => exact hk
  | admitted hholds _ _ => exact (habsurd hholds.principal_eq).elim
  | internal hholds _ _ => exact (habsurd hholds.principal_eq).elim

/-- Only what goes out can be in a wrong name. -/
theorem names_of_calls (h : ∀ x ∈ calls k, x.question.Names r who) :
    ∀ x ∈ k, x.question.Names r who := by
  intro ⟨q, a⟩ hx
  cases q with
  | access _ => trivial
  | outside q =>
    by_cases hq : q.isCall = true
    · exact h ⟨q, a⟩ (List.mem_filterMap.2 ⟨_, hx, if_pos hq⟩)
    · cases q <;> trivial

end Names

/-- The principal of a request says what its headers say, and all that goes out is in its name. -/
structure Attributed (s : InternalSettings) (r : Request) (group : List UInt8)
    (user : Option (List UInt8)) (who : Principal) : Prop where
  group_legible : IsLegible group
  group_eq : Text.bytes who.groupId = trimmed group
  group_ne : trimmed group ≠ []
  /-- The user is the one given exactly if the header, where there is one, can be read. -/
  user_eq_iff : Text.bytes who.userId = trimmed (user.getD []) ↔ ∀ v ∈ user, IsLegible v
  /-- Otherwise there is no user. -/
  user_eq_empty : (∃ v ∈ user, ¬IsLegible v) → who.userId = ""
  asks : (handle s r).Asks (Question.Names r who)

theorem Bears.attributed (s : InternalSettings) {r : Request} {group : List UInt8}
    {user : Option (List UInt8)} {who : Principal} (h : Bears r group user)
    (hwho : r.principal = .ok who) : Attributed s r group user who := by
  obtain ⟨heq, hne⟩ := h.named hwho
  have hgroup : who.groupId = Gateway.named (some group) := congrArg Principal.groupId heq
  have huser : who.userId = Gateway.named user := congrArg Principal.userId heq
  have hlegible : IsLegible group := by
    refine Decidable.by_contra fun hn => hne ?_
    rw [hgroup, named_of_illegible hn]
  have hbytes : Text.bytes who.groupId = trimmed group := by
    rw [hgroup]
    exact bytes_named_iff.2 fun v hv => Option.some.inj hv ▸ hlegible
  refine ⟨hlegible, hbytes, ?_, ?_, ?_, ?_⟩
  · intro hnil
    rw [hnil] at hbytes
    exact hne (Text.bytes_injective hbytes)
  · rw [huser]
    exact bytes_named_iff
  · rintro ⟨v, rfl, hv⟩
    rw [huser, named_of_illegible hv]
  · refine Ends.asks refusing ((handle_ends s r).mono fun k _ hk => ?_)
    exact names_of_calls (hk.names hwho)

/-- The name of a request is kept wherever both of its headers can be read.  A group that cannot be
read is refused, and a refused name has no calls.  Nothing else stands for a user that cannot be
read but no user at all, so that two requests are never taken for one user where both say a user
that can be read. -/
theorem identity_kept (s : InternalSettings) {r : Request} {group : List UInt8}
    {user : Option (List UInt8)} (h : Bears r group user) :
    (¬IsLegible group → ∃ reason, r.principal = .error (.auth reason)) ∧
    (∀ f, r.principal = .error f → (handle s r).Ends fun k _ => calls k = []) ∧
    ∀ who, r.principal = .ok who → Attributed s r group user who ∧
      ∀ r' group' user' who', Bears r' group' user' → r'.principal = .ok who' →
        (trimmed group ≠ trimmed group' → who.groupId ≠ who'.groupId) ∧
        ((∀ v ∈ user, IsLegible v) → (∀ v ∈ user', IsLegible v) →
          trimmed (user.getD []) ≠ trimmed (user'.getD []) → who.userId ≠ who'.userId) := by
  refine ⟨h.unnamed, fun f hf => (handle_ends s r).mono fun k _ hk => hk.nothing hf, ?_⟩
  intro who hwho
  have ha := h.attributed s hwho
  refine ⟨ha, fun r' group' user' who' h' hwho' => ?_⟩
  have ha' := h'.attributed s hwho'
  constructor
  · intro hne heq
    rw [← ha.group_eq, ← ha'.group_eq, heq] at hne
    exact hne rfl
  · intro hv hv' hne heq
    rw [← ha.user_eq_iff.2 hv, ← ha'.user_eq_iff.2 hv', heq] at hne
    exact hne rfl

/-- A request of a group that posts one event for a user. -/
def onePostedFor (user : List UInt8) : Request :=
  { onePosted with headers := onePosted.headers ++ [("X-User-Id", user)] }

theorem bears_onePostedFor (user : List UInt8) :
    Bears (onePostedFor user) (Text.bytes " group") (some user) := by
  have hgroup : "X-Group-Id".map Char.toLower = "x-group-id" := by decide +kernel
  have huser : "X-User-Id".map Char.toLower = "x-user-id" := by decide +kernel
  constructor <;> simp [Request.values, onePostedFor, onePosted, hgroup, huser]

theorem holds_onePostedFor {user : List UInt8} {who : Principal}
    (h : (onePostedFor user).principal = .ok who) :
    Holds (onePostedFor user) who [.make "1" "s" "t"] :=
  have hone := onePosted_holds
  ⟨hone.method_eq, hone.route, h, hone.length_le⟩

/-- A user that can be read is kept without its tab. -/
theorem identity_kept_tabbed :
    (onePostedFor (Text.bytes "user\t")).principal = .ok ⟨"group", "user"⟩ ∧
      Attributed .default (onePostedFor (Text.bytes "user\t")) (Text.bytes " group")
        (some (Text.bytes "user\t")) ⟨"group", "user"⟩ := by
  have hbears := bears_onePostedFor (Text.bytes "user\t")
  have hwho : (onePostedFor (Text.bytes "user\t")).principal = .ok ⟨"group", "user"⟩ := by
    rw [hbears.principal_eq]
    rfl
  exact ⟨hwho, ((identity_kept .default hbears).2.2 _ hwho).1⟩

/-- The users é and è of a group post an event each.  Neither is refused, and both are taken for the
group as a whole. -/
theorem accented_users_merged :
    trimmed [0xC3, 0xA9] ≠ trimmed [0xC3, 0xA8] ∧
    ∀ user ∈ [[0xC3, 0xA9], [0xC3, 0xA8]],
      Bears (onePostedFor user) (Text.bytes " group") (some user) ∧
      Holds (onePostedFor user) ⟨"group", ""⟩ [.make "1" "s" "t"] ∧
      Text.bytes "" ≠ trimmed user := by
  refine ⟨by decide, fun user huser => ?_⟩
  have hfirst : 0xC3 ∈ user := by
    obtain rfl | huser := List.mem_cons.1 huser
    · exact List.mem_cons_self
    · rw [List.mem_singleton.1 huser]
      exact List.mem_cons_self
  have hillegible : ¬IsLegible user := fun h => absurd (h 0xC3 hfirst) (by decide)
  have hbears := bears_onePostedFor user
  refine ⟨hbears, holds_onePostedFor ?_, (trimmed_ne_nil hillegible).symm⟩
  rw [hbears.principal_eq, Option.bind_some, headerText?_of_illegible hillegible]
  rfl

end Sluice.Gateway
