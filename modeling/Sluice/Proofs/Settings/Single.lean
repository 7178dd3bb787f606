import Sluice.Proofs.Settings.Layers

/-!
# Single settings

The settings of the gateway one by one: where each stands in a layer, how it is read there, which
variable it has of its own, and where it ends up.  Nothing else is read from the layers
(`rootSection_read`), and the variables of single settings change nothing but these
(`overrides_foldlM`).
-/

namespace Sluice.Settings

/-- A single setting. -/
inductive Setting where
  | host
  | port
  | brokers
  | topic
  | partition
  | compression
  | requestTimeout
  | username
  | password
  | quotaUrl
  | quotaTimeout
  | denyListUrl
  | pageSize
  | refreshInterval
  | denyListTimeout
  | markerName
  | markerValue
  | ratePerMinute
deriving DecidableEq, Repr

/-- A variable that a setting has of its own. -/
structure Variable (α : Type) where
  name : String
  /-- What the variable stands for by its text. -/
  read : String → Except NumberFault α

namespace Setting

/-- What a setting is. -/
abbrev Value : Setting → Type
  | host | topic | compression | quotaUrl | denyListUrl | markerName => String
  | username | password => Option String
  | brokers => List String
  | port => UInt16
  | partition | markerValue => Int32
  | pageSize | ratePerMinute => UInt32
  | requestTimeout | quotaTimeout | refreshInterval | denyListTimeout => UInt64

/-- The place of a setting in a layer. -/
def place : Setting → List String
  | host => ["host"]
  | port => ["port"]
  | brokers => ["redpanda", "brokers"]
  | topic => ["redpanda", "topic"]
  | partition => ["redpanda", "partition"]
  | compression => ["redpanda", "compression"]
  | requestTimeout => ["redpanda", "request_timeout_ms"]
  | username => ["redpanda", "sasl_username"]
  | password => ["redpanda", "sasl_password"]
  | quotaUrl => ["quota", "url"]
  | quotaTimeout => ["quota", "timeout_ms"]
  | denyListUrl => ["deny_list", "url"]
  | pageSize => ["deny_list", "page_size"]
  | refreshInterval => ["deny_list", "refresh_interval_secs"]
  | denyListTimeout => ["deny_list", "timeout_ms"]
  | markerName => ["internal", "marker_name"]
  | markerValue => ["internal", "marker_value"]
  | ratePerMinute => ["internal", "rate_per_minute"]

/-- How a setting is read from a layer. -/
def read : (x : Setting) → Read x.Value
  | host | topic | compression | quotaUrl | denyListUrl | markerName => Tree.readText
  | username | password => Tree.readOptional Tree.readText
  | brokers => Tree.readList Tree.readText
  | port => fun t => (Tree.readNatural 16 t).map UInt16.ofNat
  | partition | markerValue => Tree.readInt32
  | pageSize | ratePerMinute => fun t => (Tree.readNatural 32 t).map UInt32.ofNat
  | requestTimeout | quotaTimeout | refreshInterval | denyListTimeout => Tree.readUnsigned

/-- The variable of a setting. -/
def ownVar? : (x : Setting) → Option (Variable x.Value)
  | brokers => some ⟨"GATEWAY_REDPANDA_BROKERS", fun t => .ok (addresses t)⟩
  | username => some ⟨"GATEWAY_REDPANDA_SASL_USERNAME", fun t => .ok (some t)⟩
  | password => some ⟨"GATEWAY_REDPANDA_SASL_PASSWORD", fun t => .ok (some t)⟩
  | topic => some ⟨"GATEWAY_REDPANDA_TOPIC", .ok⟩
  | quotaUrl => some ⟨"GATEWAY_QUOTA_URL", .ok⟩
  | denyListUrl => some ⟨"GATEWAY_DENY_LIST_URL", .ok⟩
  | refreshInterval =>
    some ⟨"GATEWAY_DENY_LIST_REFRESH_INTERVAL_SECS", fun t =>
      (wholeWithin 0 (UInt64.size - 1 : Nat) t).map fun n => UInt64.ofNat n.toNat⟩
  | markerName => some ⟨"GATEWAY_INTERNAL_MARKER_NAME", .ok⟩
  | markerValue =>
    some ⟨"GATEWAY_INTERNAL_MARKER_VALUE", fun t =>
      (wholeWithin Int32.minValue.toInt Int32.maxValue.toInt t).map Int32.ofInt⟩
  | ratePerMinute =>
    some ⟨"GATEWAY_INTERNAL_RATE_PER_MINUTE", fun t =>
      (wholeWithin 0 (UInt32.size - 1 : Nat) t).map fun n => UInt32.ofNat n.toNat⟩
  | host | port | partition | compression | requestTimeout | quotaTimeout | pageSize
  | denyListTimeout => none

/-! ## Settings put together -/

def get : (x : Setting) → Settings → x.Value
  | host, s => s.host
  | port, s => s.port
  | brokers, s => s.broker.brokers
  | topic, s => s.broker.topic
  | partition, s => s.broker.partition
  | compression, s => s.broker.compression
  | requestTimeout, s => s.broker.timeoutMs
  | username, s => s.broker.username
  | password, s => s.broker.password
  | quotaUrl, s => s.quota.url
  | quotaTimeout, s => s.quota.timeoutMs
  | denyListUrl, s => s.denyList.url
  | pageSize, s => s.denyList.pageSize
  | refreshInterval, s => s.denyList.refreshSecs
  | denyListTimeout, s => s.denyList.timeoutMs
  | markerName, s => s.internal.markerName
  | markerValue, s => s.internal.markerValue
  | ratePerMinute, s => s.internal.perMinute

def set : (x : Setting) → x.Value → Settings → Settings
  | host, a, s => { s with host := a }
  | port, a, s => { s with port := a }
  | brokers, a, s => { s with broker.brokers := a }
  | topic, a, s => { s with broker.topic := a }
  | partition, a, s => { s with broker.partition := a }
  | compression, a, s => { s with broker.compression := a }
  | requestTimeout, a, s => { s with broker.timeoutMs := a }
  | username, a, s => { s with broker.username := a }
  | password, a, s => { s with broker.password := a }
  | quotaUrl, a, s => { s with quota.url := a }
  | quotaTimeout, a, s => { s with quota.timeoutMs := a }
  | denyListUrl, a, s => { s with denyList.url := a }
  | pageSize, a, s => { s with denyList.pageSize := a }
  | refreshInterval, a, s => { s with denyList.refreshSecs := a }
  | denyListTimeout, a, s => { s with denyList.timeoutMs := a }
  | markerName, a, s => { s with internal.markerName := a }
  | markerValue, a, s => { s with internal.markerValue := a }
  | ratePerMinute, a, s => { s with internal.perMinute := a }

@[simp] theorem get_set_self (x : Setting) (a : x.Value) (s : Settings) :
    x.get (x.set a s) = a := by
  cases x <;> rfl

theorem get_set_of_ne {x y : Setting} (h : y ≠ x) (a : x.Value) (s : Settings) :
    y.get (x.set a s) = y.get s := by
  cases x <;> cases y <;> first | rfl | exact absurd rfl h

/-- The settings are nothing but the single ones. -/
theorem ext {s s' : Settings} (h : ∀ x : Setting, x.get s = x.get s') : s = s' := by
  obtain ⟨_, _, ⟨⟩, ⟨⟩, ⟨⟩, ⟨⟩⟩ := s
  obtain ⟨_, _, ⟨⟩, ⟨⟩, ⟨⟩, ⟨⟩⟩ := s'
  cases h host; cases h port; cases h brokers; cases h topic; cases h partition
  cases h compression; cases h requestTimeout; cases h username; cases h password
  cases h quotaUrl; cases h quotaTimeout; cases h denyListUrl; cases h pageSize
  cases h refreshInterval; cases h denyListTimeout; cases h markerName; cases h markerValue
  cases h ratePerMinute
  rfl

@[simp] theorem set_get (x : Setting) (s : Settings) : x.set (x.get s) s = s := by
  refine ext fun y => ?_
  by_cases h : y = x
  · subst h; simp
  · exact get_set_of_ne h _ s

/-- Setting one of the settings changes it and no other. -/
theorem set_eq_iff (x : Setting) (a : x.Value) (s s' : Settings) :
    x.set a s = s' ↔ a = x.get s' ∧ ∀ y ≠ x, y.get s = y.get s' := by
  constructor
  · rintro rfl
    exact ⟨(get_set_self x a s).symm, fun y h => (get_set_of_ne h a s).symm⟩
  · rintro ⟨rfl, h⟩
    refine ext fun y => ?_
    by_cases hy : y = x
    · subst hy; simp
    · rw [get_set_of_ne hy, h y hy]

end Setting

/-! ## Reading sections -/

section Reading

variable {ε ε' α β : Type}

theorem map_eq_ok {f : β → α} {r : Except ε β} {a : α} :
    r.map f = .ok a ↔ ∃ v, r = .ok v ∧ f v = a := by
  cases r <;> simp [Except.map]

theorem bind_eq_ok {r : Except ε β} {f : β → Except ε α} {a : α} :
    r >>= f = .ok a ↔ ∃ v, r = .ok v ∧ f v = .ok a := by
  cases r <;> simp [bind, Except.bind]

theorem mapError_eq_ok {f : ε → ε'} {r : Except ε α} {a : α} :
    r.mapError f = .ok a ↔ r = .ok a := by
  constructor <;> intro h <;> cases r <;> cases h <;> rfl

theorem fromMembers_nil {m : List (String × Tree)} {a b : α} :
    Section.fromMembers m [] a = .ok b ↔ a = b := by
  simp [Section.fromMembers]

/-- A field whose member is there. -/
theorem fromMembers_cons {m : List (String × Tree)} {name : String} {t : Tree}
    (h : m.lookup name = some t) (isNeeded : Bool) (read : Read β) (set : β → α → α)
    (r : List (Field α)) (a b : α) :
    Section.fromMembers m
        (⟨name, isNeeded, fun t a => (read t).map fun v => set v a⟩ :: r) a = .ok b ↔
      ∃ v, read t = .ok v ∧ Section.fromMembers m r (set v a) = .ok b := by
  rw [Section.fromMembers, h, bind_eq_ok]
  simp only [mapError_eq_ok, map_eq_ok]
  constructor
  · rintro ⟨_, ⟨v, hv, rfl⟩, hr⟩
    exact ⟨v, hv, hr⟩
  · rintro ⟨v, hv, hr⟩
    exact ⟨_, ⟨v, hv, rfl⟩, hr⟩

/-- A section that is given as a table and has the fields that it cannot be without. -/
theorem section_read {s : Section α} {m : List (String × Tree)} {source : Source}
    (h : ∀ f ∈ s.fields, f.isNeeded = true → (m.lookup f.name).isSome) (a : α) :
    s.read (.table m source) = .ok a ↔ Section.fromMembers m s.fields s.blank = .ok a := by
  have hfind : (s.fields.find? fun f => f.isNeeded && (m.lookup f.name).isNone) = none := by
    rw [List.find?_eq_none]
    intro f hf
    cases hneeded : f.isNeeded with
    | false => simp
    | true => simpa using Option.isSome_iff_ne_none.mp (h f hf hneeded)
  cases hread : Section.fromMembers m s.fields s.blank <;>
    simp [Section.read, hread, hfind, bind, Except.bind]

end Reading

/-- What is at a place of two names is a member of a section. -/
theorem exists_section_of_at? {a b : String} {t v : Tree} (h : t.at? [a, b] = some v) :
    ∃ m source, t.member? a = some (.table m source) := by
  obtain ⟨u, hu, hv⟩ := Option.bind_eq_some_iff.mp h
  cases u with
  | scalar | list => cases hv
  | table m source => exact ⟨m, source, hu⟩

theorem lookup_of_at? {a b : String} {t v : Tree} {m : List (String × Tree)} {source : Source}
    (ht : t.member? a = some (.table m source)) (h : t.at? [a, b] = some v) :
    m.lookup b = some v := by
  obtain ⟨u, hu, w, hw, hv⟩ := by
    simpa only [Tree.at?_cons, Option.bind_eq_some_iff] using h
  cases ht.symm.trans hu
  cases hv
  exact hw

section Sections

variable {m : List (String × Tree)} (source : Source)

theorem brokerSection_read {brokers topic partition compression timeout username password : Tree}
    (hbrokers : m.lookup "brokers" = some brokers) (htopic : m.lookup "topic" = some topic)
    (hpartition : m.lookup "partition" = some partition)
    (hcompression : m.lookup "compression" = some compression)
    (htimeout : m.lookup "request_timeout_ms" = some timeout)
    (husername : m.lookup "sasl_username" = some username)
    (hpassword : m.lookup "sasl_password" = some password) (b : BrokerSettings) :
    brokerSection.read (.table m source) = .ok b ↔
      brokers.readList Tree.readText = .ok b.brokers ∧ topic.readText = .ok b.topic ∧
        partition.readInt32 = .ok b.partition ∧ compression.readText = .ok b.compression ∧
        timeout.readUnsigned = .ok b.timeoutMs ∧
        username.readOptional Tree.readText = .ok b.username ∧
        password.readOptional Tree.readText = .ok b.password := by
  rw [section_read (by simp [brokerSection, Field.of, hbrokers, -List.lookup_isSome_iff])]
  simp only [brokerSection, Field.of, fromMembers_cons hbrokers, fromMembers_cons htopic,
    fromMembers_cons hpartition, fromMembers_cons hcompression, fromMembers_cons htimeout,
    fromMembers_cons husername, fromMembers_cons hpassword, fromMembers_nil]
  grind [BrokerSettings]

theorem quotaSection_read {url timeout : Tree} (hurl : m.lookup "url" = some url)
    (htimeout : m.lookup "timeout_ms" = some timeout) (q : QuotaSettings) :
    quotaSection.read (.table m source) = .ok q ↔
      url.readText = .ok q.url ∧ timeout.readUnsigned = .ok q.timeoutMs := by
  rw [section_read (by simp [quotaSection, Field.of])]
  simp only [quotaSection, Field.of, fromMembers_cons hurl, fromMembers_cons htimeout,
    fromMembers_nil]
  grind [QuotaSettings]

theorem denyListSection_read {url pageSize refresh timeout : Tree}
    (hurl : m.lookup "url" = some url) (hpage : m.lookup "page_size" = some pageSize)
    (hrefresh : m.lookup "refresh_interval_secs" = some refresh)
    (htimeout : m.lookup "timeout_ms" = some timeout) (d : DenyListSettings) :
    denyListSection.read (.table m source) = .ok d ↔
      url.readText = .ok d.url ∧
        (pageSize.readNatural 32).map UInt32.ofNat = .ok d.pageSize ∧
        refresh.readUnsigned = .ok d.refreshSecs ∧ timeout.readUnsigned = .ok d.timeoutMs := by
  rw [section_read (by simp [denyListSection, Field.of])]
  simp only [denyListSection, Field.of, fromMembers_cons hurl, fromMembers_cons hpage,
    fromMembers_cons hrefresh, fromMembers_cons htimeout, fromMembers_nil, map_eq_ok]
  grind [DenyListSettings]

theorem internalSection_read {name value rate : Tree}
    (hname : m.lookup "marker_name" = some name) (hvalue : m.lookup "marker_value" = some value)
    (hrate : m.lookup "rate_per_minute" = some rate) (i : Gateway.InternalSettings) :
    internalSection.read (.table m source) = .ok i ↔
      name.readText = .ok i.markerName ∧ value.readInt32 = .ok i.markerValue ∧
        (rate.readNatural 32).map UInt32.ofNat = .ok i.perMinute := by
  rw [section_read (by simp [internalSection, Field.of])]
  simp only [internalSection, Field.of, fromMembers_cons hname, fromMembers_cons hvalue,
    fromMembers_cons hrate, fromMembers_nil, map_eq_ok]
  grind [Gateway.InternalSettings]

end Sections

/-- What is read from a tree that has all settings: each is read at its place. -/
theorem rootSection_read {t : Tree} {w : Setting → Tree} (h : ∀ x, t.at? x.place = some (w x))
    (s : Settings) : rootSection.read t = .ok s ↔ ∀ x : Setting, x.read (w x) = .ok (x.get s) := by
  obtain ⟨mb, sb, hb⟩ := exists_section_of_at? (h .topic)
  obtain ⟨mq, sq, hq⟩ := exists_section_of_at? (h .quotaUrl)
  obtain ⟨md, sd, hd⟩ := exists_section_of_at? (h .denyListUrl)
  obtain ⟨mi, si, hi⟩ := exists_section_of_at? (h .markerName)
  have hhost := Tree.at?_singleton.mp (h .host)
  have hport := Tree.at?_singleton.mp (h .port)
  have broker := brokerSection_read sb (lookup_of_at? hb (h .brokers))
    (lookup_of_at? hb (h .topic)) (lookup_of_at? hb (h .partition))
    (lookup_of_at? hb (h .compression)) (lookup_of_at? hb (h .requestTimeout))
    (lookup_of_at? hb (h .username)) (lookup_of_at? hb (h .password))
  have quota := quotaSection_read sq (lookup_of_at? hq (h .quotaUrl))
    (lookup_of_at? hq (h .quotaTimeout))
  have denyList := denyListSection_read sd (lookup_of_at? hd (h .denyListUrl))
    (lookup_of_at? hd (h .pageSize)) (lookup_of_at? hd (h .refreshInterval))
    (lookup_of_at? hd (h .denyListTimeout))
  have internal := internalSection_read si (lookup_of_at? hi (h .markerName))
    (lookup_of_at? hi (h .markerValue)) (lookup_of_at? hi (h .ratePerMinute))
  cases t with
  | scalar | list => cases hb
  | table m source =>
    simp only [Tree.member?] at hhost hport hb hq hd hi
    rw [section_read (by simp [rootSection, Field.of])]
    simp only [rootSection, Field.of, fromMembers_cons hhost, fromMembers_cons hport,
      fromMembers_cons hb, fromMembers_cons hq, fromMembers_cons hd, fromMembers_cons hi,
      fromMembers_nil, broker, quota, denyList, internal]
    constructor
    · rintro ⟨_, hhost, n, hport, b, ⟨_, _, _, _, _, _, _⟩, q, ⟨_, _⟩, d, ⟨_, _, _, _⟩, i,
        ⟨_, _, _⟩, rfl⟩ x
      cases x with
      | port => exact map_eq_ok.mpr ⟨n, hport, rfl⟩
      | _ => assumption
    · intro hx
      obtain ⟨n, hn, hport⟩ := map_eq_ok.mp (hx .port)
      refine ⟨s.host, hx .host, n, hn, s.broker, ⟨hx .brokers, hx .topic, hx .partition,
        hx .compression, hx .requestTimeout, hx .username, hx .password⟩, s.quota,
        ⟨hx .quotaUrl, hx .quotaTimeout⟩, s.denyList, ⟨hx .denyListUrl, hx .pageSize,
        hx .refreshInterval, hx .denyListTimeout⟩, s.internal, ⟨hx .markerName, hx .markerValue,
        hx .ratePerMinute⟩, ?_⟩
      rw [hport]
      rfl

/-! ## Variables of single settings -/

namespace Setting

/-- The settings with those that have variables in the order of these. -/
def all : List Setting :=
  [brokers, username, password, topic, quotaUrl, denyListUrl, refreshInterval, markerName,
    markerValue, ratePerMinute, host, port, partition, compression, requestTimeout, quotaTimeout,
    pageSize, denyListTimeout]

theorem mem_all (x : Setting) : x ∈ all := by
  cases x <;> decide

/-- The change of the settings by the variable of one. -/
def override? (x : Setting) : Option Override :=
  x.ownVar?.map fun v => ⟨v.name, fun t s => (v.read t).map fun a => x.set a s⟩

/-- What the variable of a setting stands for, if it is set. -/
def own? (x : Setting) (e : Environment) : Option (Except NumberFault x.Value) :=
  x.ownVar?.bind fun v => (e.get? v.name).map v.read

/-- A setting with its variable over what it was. -/
def after (x : Setting) (e : Environment) (below : x.Value) : Except NumberFault x.Value :=
  (x.own? e).getD (.ok below)

end Setting

theorem Override.whole_eq {α : Type} (name : String) (least most : Int) (f : Int → α)
    (set : α → Settings → Settings) :
    Override.whole name least most (fun n s => set (f n) s) =
      ⟨name, fun t s => ((wholeWithin least most t).map f).map fun a => set a s⟩ := by
  simp only [Override.whole, Override.mk.injEq, true_and]
  funext t s
  cases wholeWithin least most t <;> rfl

theorem overrides_eq : overrides = Setting.all.filterMap Setting.override? := by
  simp only [Setting.all, Setting.override?, Setting.ownVar?, List.filterMap_cons,
    List.filterMap_nil, Option.map_some, Option.map_none]
  rw [← Override.whole_eq _ _ _ (fun n => UInt64.ofNat n.toNat) Setting.refreshInterval.set,
    ← Override.whole_eq _ _ _ Int32.ofInt Setting.markerValue.set,
    ← Override.whole_eq _ _ _ (fun n => UInt32.ofNat n.toNat) Setting.ratePerMinute.set]
  rfl

/-- The change by the variable of a setting, if it has one, is a change of this setting alone. -/
theorem override_ok (x : Setting) (e : Environment) (s s' : Settings) :
    x.override?.elim (.ok s) (Override.applyFrom e s) = .ok s' ↔
      x.after e (x.get s) = .ok (x.get s') ∧ ∀ y ≠ x, y.get s = y.get s' := by
  cases hx : x.ownVar? with
  | none =>
    simpa [Setting.override?, Setting.after, Setting.own?, hx]
      using Setting.set_eq_iff x (x.get s) s s'
  | some v =>
    cases ht : e.get? v.name with
    | none =>
      simpa [Setting.override?, Setting.after, Setting.own?, hx, Override.applyFrom, ht]
        using Setting.set_eq_iff x (x.get s) s s'
    | some t =>
      have hafter : x.after e (x.get s) = v.read t := by
        simp [Setting.after, Setting.own?, hx, ht]
      have happly : x.override?.elim (.ok s) (Override.applyFrom e s) =
          ((v.read t).map fun a => x.set a s).mapError (.override v.name) := by
        simp [Setting.override?, hx, Override.applyFrom, ht]
      rw [hafter, happly, mapError_eq_ok, map_eq_ok]
      simp only [Setting.set_eq_iff]
      constructor
      · rintro ⟨_, ha, rfl, hrest⟩
        exact ⟨ha, hrest⟩
      · rintro ⟨ha, hrest⟩
        exact ⟨_, ha, rfl, hrest⟩

/-- The changes by the variables of some settings, each one of its own setting. -/
theorem foldlM_override (e : Environment) {l : List Setting} (hl : l.Nodup) (s s' : Settings) :
    (l.filterMap Setting.override?).foldlM (Override.applyFrom e) s = .ok s' ↔
      (∀ x ∈ l, x.after e (x.get s) = .ok (x.get s')) ∧ ∀ x ∉ l, x.get s = x.get s' := by
  induction l generalizing s with
  | nil => simpa [pure, Except.pure] using ⟨fun h x => by rw [h], fun h => Setting.ext h⟩
  | cons x l ih =>
    obtain ⟨hx, hl⟩ := List.nodup_cons.mp hl
    have hstep : ((x :: l).filterMap Setting.override?).foldlM (Override.applyFrom e) s =
        x.override?.elim (.ok s) (Override.applyFrom e s) >>= fun u =>
          (l.filterMap Setting.override?).foldlM (Override.applyFrom e) u := by
      cases ho : x.override? with
      | none => rw [List.filterMap_cons_none ho]; rfl
      | some o => rw [List.filterMap_cons_some ho]; rfl
    have ne_of_mem {z : Setting} (hz : z ∈ l) : z ≠ x := fun h => hx (h ▸ hz)
    rw [hstep, bind_eq_ok]
    simp only [override_ok, ih hl]
    constructor
    · rintro ⟨u, ⟨hxu, hyu⟩, hzu, hwu⟩
      refine ⟨List.forall_mem_cons.mpr ⟨?_, fun z hz => ?_⟩, fun z hz => ?_⟩
      · rw [hxu, hwu x hx]
      · rw [hyu z (ne_of_mem hz), hzu z hz]
      · obtain ⟨hne, hz⟩ := not_or.mp (mt List.mem_cons.mpr hz)
        rw [hyu z hne, hwu z hz]
    · rintro ⟨hall, hrest⟩
      obtain ⟨hself, hall⟩ := List.forall_mem_cons.mp hall
      refine ⟨x.set (x.get s') s, ⟨by rwa [Setting.get_set_self], fun y hy => ?_⟩, fun z hz => ?_,
        fun z hz => ?_⟩
      · rw [Setting.get_set_of_ne hy]
      · rw [Setting.get_set_of_ne (ne_of_mem hz), hall z hz]
      · by_cases h : z = x
        · subst h; simp
        · rw [Setting.get_set_of_ne h, hrest z (by simp [h, hz])]

/-- The changes by all variables: each setting has the value of its variable, if that is set. -/
theorem overrides_foldlM (e : Environment) (s s' : Settings) :
    overrides.foldlM (Override.applyFrom e) s = .ok s' ↔
      ∀ x : Setting, x.after e (x.get s) = .ok (x.get s') := by
  rw [overrides_eq, foldlM_override e (by decide)]
  simp [Setting.mem_all]

end Sluice.Settings
