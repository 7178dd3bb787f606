import Sluice.Proofs.Broker.Producer
import Sluice.Proofs.Settings.Loading

/-!
# Where a connection starts from

The variable with the addresses of the brokers is cut at its commas (`brokers_of_variable`), and the
settings keep the addresses apart.  A connection puts them together again: it starts from one text
with commas in it, so that it starts from the brokers that are configured only if there is one of
them (`bootstrap_eq_iff`), and with more of them none that answers is any help (`one_suffices_iff`).
-/

namespace Sluice

namespace Text

/-! ## Texts cut at a character -/

theorem splitBy_eq_splitOnP (p : Char → Bool) (cs : List Char) : splitBy p cs = cs.splitOnP p := by
  induction cs with
  | nil => rfl
  | cons c r ih =>
    rw [splitBy, List.splitOnP_cons_eq_if_modifyHead, ih]
    split
    · rfl
    · cases h : r.splitOnP p with
      | nil => exact absurd h (List.splitOnP_ne_nil p r)
      | cons part parts => rfl

/-- There is one part more than characters that separate them. -/
theorem length_splitBy (p : Char → Bool) (cs : List Char) :
    (splitBy p cs).length = cs.countP p + 1 := by
  induction cs with
  | nil => rfl
  | cons c r ih =>
    rw [splitBy, List.countP_cons]
    split
    · simp [*]
    · cases h : splitBy p r with
      | nil => simp [h] at ih
      | cons part parts => simpa [h, *] using ih

theorem not_of_mem_splitBy {p : Char → Bool} {cs part : List Char} (h : part ∈ splitBy p cs) :
    ∀ c ∈ part, p c = false := by
  induction cs generalizing part with
  | nil => simp_all [splitBy]
  | cons c r ih =>
    rw [splitBy] at h
    split at h
    · rcases List.mem_cons.mp h with rfl | h
      · simp
      · exact ih h
    · rename_i hc
      cases hr : splitBy p r with
      | nil => simp_all
      | cons first parts =>
        rw [hr] at h ih
        rcases List.mem_cons.mp h with rfl | h
        · exact List.forall_mem_cons.mpr ⟨by simpa using hc, ih List.mem_cons_self⟩
        · exact ih (List.mem_cons_of_mem _ h)

end Text

namespace Broker

open Settings (Setting Files)

/-! ## The addresses in the variable -/

/-- A text has addresses with commas between them, and perhaps white space around them. -/
def Lists (v : String) (l : List String) : Prop :=
  ∃ parts : List (List Char), (∀ part ∈ parts, ',' ∉ part) ∧ [','].intercalate parts = v.toList ∧
    l = parts.map fun part => String.ofList (Text.trimBlank part)

theorem lists_addresses (v : String) : Lists v (Settings.addresses v) := by
  refine ⟨Text.splitBy (· == ',') v.toList, fun part hpart hc => ?_, ?_, rfl⟩
  · simpa using Text.not_of_mem_splitBy hpart _ hc
  · rw [Text.splitBy_eq_splitOnP]
    exact List.intercalate_splitOn ','

theorem length_addresses (v : String) :
    (Settings.addresses v).length = v.toList.count ',' + 1 := by
  rw [Settings.addresses, List.length_map, Text.length_splitBy]
  rfl

theorem brokers_of_variable {e : Environment} {files : Files} {t : Settings} {v : String}
    (h : Settings.load e files = .ok t) (hv : e.get? "GATEWAY_REDPANDA_BROKERS" = some v) :
    t.broker.brokers = Settings.addresses v := by
  obtain ⟨_, _, _, _, _, _, hafter⟩ := Settings.load_eq_ok.mp h
  have hown : Setting.brokers.own? e = some (.ok (Settings.addresses v)) := by
    simp [Setting.own?, Setting.ownVar?, hv]
  have := hafter .brokers
  rw [Setting.after, hown] at this
  exact (Except.ok.inj this).symm

/-! ## One text for all brokers -/

/-- Together with others an address makes a longer text. -/
theorem brokerText_ne {s : BrokerSettings} {a b : String} {r : List String}
    (h : s.brokers = a :: b :: r) : s.brokerText ≠ a := by
  intro heq
  have hlength := congrArg String.length heq
  simp only [BrokerSettings.brokerText, h, String.intercalate_cons_cons, String.length_append]
    at hlength
  have : (",").length = 1 := rfl
  omega

theorem bootstrap_eq_iff (s : BrokerSettings) :
    bootstrap s = s.brokers ↔ s.brokers.length = 1 := by
  rcases h : s.brokers with _ | ⟨a, _ | ⟨b, r⟩⟩
  · simp [bootstrap]
  · simp [bootstrap, BrokerSettings.brokerText, h]
  · simp [bootstrap]

/-- A connection can be had from any broker that answers only if there is not more than one. -/
theorem one_suffices_iff (s : BrokerSettings) :
    (∀ answers : String → Prop, (∃ a ∈ s.brokers, answers a) → ∃ a ∈ bootstrap s, answers a) ↔
      s.brokers.length ≤ 1 := by
  rcases h : s.brokers with _ | ⟨a, _ | ⟨b, r⟩⟩
  · simp
  · simp [bootstrap, BrokerSettings.brokerText, h]
  · have hfirst : ¬∀ answers : String → Prop, (∃ x ∈ a :: b :: r, answers x) →
        ∃ x ∈ bootstrap s, answers x := by
      intro hall
      obtain ⟨x, hx, rfl⟩ := hall (· = a) ⟨a, by simp, rfl⟩
      exact brokerText_ne h (List.mem_singleton.mp hx).symm
    exact iff_of_false hfirst (by simp)

/-- A question to connect is one to connect to these addresses. -/
def ConnectsTo (addresses : List String) : Question → Prop
  | .connect l _ => l = addresses
  | _ => True

theorem Apart.connectsTo {s : BrokerSettings} {q : Question} (h : Apart s q) :
    ConnectsTo (bootstrap s) q := by
  cases q with
  | connect => exact h.1
  | _ => trivial

/-- The connections of the producer and of the check at startup start from the brokers that are
configured, one address for each, exactly if there is one broker; no more than one may there be for
any that answers to be enough.  The variable with the addresses is taken apart at its commas, so if
it gave the brokers they are started from as it lists them exactly if it has none. -/
theorem bootstrap_addresses (s : BrokerSettings) :
    (∀ origin events, (produce s origin events).Asks (ConnectsTo (bootstrap s))) ∧
      (isReachable s).Asks (ConnectsTo (bootstrap s)) ∧
      (bootstrap s = s.brokers ↔ s.brokers.length = 1) ∧
      ((∀ answers : String → Prop, (∃ a ∈ s.brokers, answers a) → ∃ a ∈ bootstrap s, answers a) ↔
        s.brokers.length ≤ 1) ∧
      ∀ (e : Environment) (files : Files) (t : Settings) (v : String),
        Settings.load e files = .ok t → t.broker = s →
          e.get? "GATEWAY_REDPANDA_BROKERS" = some v →
            Lists v s.brokers ∧ (bootstrap s = s.brokers ↔ ',' ∉ v.toList) := by
  refine ⟨fun origin events => (produce_asks s origin events).mono fun _ => Apart.connectsTo,
    (isReachable_asks s).mono fun _ => Apart.connectsTo, bootstrap_eq_iff s, one_suffices_iff s,
    fun e files t v h hs hv => ?_⟩
  rw [bootstrap_eq_iff, ← hs, brokers_of_variable h hv, length_addresses]
  refine ⟨lists_addresses v, ?_⟩
  rw [← List.count_eq_zero]
  omega

/-- One address in the variable. -/
theorem bootstrap_addresses_one :
    ∃ t, Settings.load (Environment.empty.set "GATEWAY_REDPANDA_BROKERS" "a:1") [] = .ok t ∧
      bootstrap t.broker = t.broker.brokers :=
  have h := Settings.Loads.builtIn.set_own (x := .brokers) rfl "a:1" rfl
  ⟨_, h.load_eq,
    ((bootstrap_addresses _).2.2.2.2 _ _ _ "a:1" h.load_eq rfl rfl).2.mpr (by decide)⟩

/-- Two addresses in the variable are kept as two brokers, and become one text to start from. -/
theorem two_brokers_one_address :
    ∃ t, Settings.load ⟨[("GATEWAY_REDPANDA_BROKERS", "a:1,b:2")]⟩ [] = .ok t ∧
      t.broker.brokers = ["a:1", "b:2"] ∧ bootstrap t.broker = ["a:1,b:2"] :=
  ⟨_, (Settings.Loads.builtIn.set_own (x := .brokers) rfl "a:1,b:2" rfl).load_eq, rfl, rfl⟩

end Broker

end Sluice
